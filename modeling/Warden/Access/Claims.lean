import Warden.Access.Error
import Warden.Access.WebKey
import Warden.Json.Decode
import Warden.Text.Base64

/-!
# The user id inside an access token

The fallback that finds a user id when the identity provider gives no login information: the
access token is read as a JSON Web Token, without checking its signature or expiry (the token
arrived over an authenticated channel), and the id is the `uid` claim, else the `sub` claim,
whichever is first a non-empty string.

The token is cut at its last two dots into header, claims and signature; the signature is
never looked at. The header must name one of the known signing algorithms, and a key it
embeds must read as a key (`Warden.WebKey`). The claims are read twice: once as an object of
values, which is where the id comes from, and once more for the registered claims, where a
repeated `sub`, `exp`, `nbf`, `iss` or `aud` is an error, a value of the wrong kind is
tolerated, and a `sub` that is an array or object is left unread, which breaks the rest of the
object.
-/

namespace Warden

namespace Claims

/-- Why a token could not be read. -/
inductive TokenError where
  | shape
  | encoding (e : Text.Base64Error)
  | json (e : JsonError)

/-- The message of a token error. -/
def TokenError.message : TokenError → String
  | .shape => "InvalidToken"
  | .encoding e => "Base64 error: " ++ e.message
  | .json e => "JSON error: " ++ e.message

/-- Cuts text at its last dot: the part after it, and the part before it. -/
def cutLast (s : String) : Option (String × String) :=
  let cs := s.toList
  match (cs.reverse.findIdx? (· = '.')) with
  | some k =>
    let i := cs.length - 1 - k
    some (String.ofList (cs.drop (i + 1)), String.ofList (cs.take i))
  | none => none

/-- The signing algorithms a header may name. -/
def algorithms : List String :=
  ["HS256", "HS384", "HS512", "ES256", "ES384", "RS256", "RS384", "RS512", "PS256", "PS384",
    "PS512", "EdDSA"]

/-- Reads an optional text. -/
def optionalText : Json.Reader Unit := do
  let _ ← Json.readOption Json.readString
  pure ()

/-- The JSON record of a token header; only the algorithm is required. -/
def headerShape : Json.Shape Unit where
  name := "Header"
  fields := [
    ⟨"typ", .optional, fun _ => optionalText⟩,
    ⟨"alg", .required, fun _ => do let _ ← Json.readVariant algorithms; pure ()⟩,
    ⟨"cty", .optional, fun _ => optionalText⟩,
    ⟨"jku", .optional, fun _ => optionalText⟩,
    ⟨"jwk", .optional, fun _ => do let _ ← Json.readOption WebKey.read; pure ()⟩,
    ⟨"kid", .optional, fun _ => optionalText⟩,
    ⟨"x5u", .optional, fun _ => optionalText⟩,
    ⟨"x5c", .optional, fun _ => do let _ ← Json.readOption (Json.readList Json.readString); pure ()⟩,
    ⟨"x5t", .optional, fun _ => optionalText⟩,
    ⟨"x5t#S256", .optional, fun _ => optionalText⟩]
  init := ()

/-- Reads a value for a claim that tolerates any value: failures are dropped, and the reader
stays where the failure left it. -/
def tolerant (r : Json.Reader Unit) : Json.Reader Unit := do
  let _ ← Json.attempt r
  pure ()

/-- Reads a time claim as a number of any shape; a container is entered and closed but not
read, so only an empty one is passed over whole. -/
def timeClaim : Json.Reader Unit :=
  Json.typed fun b =>
    if b = Json.byte '[' then Json.enter (Json.fail (.invalidType .seq "a number")) Json.closeList
    else if b = Json.byte '{' then Json.enter (Json.fail (.invalidType .map "a number")) Json.closeObject
    else do let _ ← Json.readAny; pure ()

/-- The JSON record of the registered claims. -/
def registeredShape : Json.Shape Unit where
  name := "ClaimsForValidation"
  fields := [
    ⟨"exp", .defaulted, fun _ => tolerant timeClaim⟩,
    ⟨"nbf", .defaulted, fun _ => tolerant timeClaim⟩,
    ⟨"sub", .optional, fun _ => tolerant optionalText⟩,
    ⟨"iss", .optional, fun _ => tolerant (do let _ ← Json.readOption Json.readAny; pure ())⟩,
    ⟨"aud", .optional, fun _ => tolerant (do let _ ← Json.readOption Json.readAny; pure ())⟩]
  init := ()

/-- Decodes one part of a token. -/
def part (s : String) : Except TokenError (List UInt8) :=
  match Text.decodeBase64Url (String.toUTF8 s).toList with
  | .ok bytes => .ok bytes
  | .error e => .error (.encoding e)

/-- Reads a whole JSON document from bytes. -/
def document {α : Type} (r : Json.Reader α) (bytes : List UInt8) : Except TokenError α :=
  match Json.readDocument r bytes with
  | .ok v => .ok v
  | .error e => .error (.json e)

/-- The claims of a token, as an object of values in document order. -/
def claims (token : String) : Except TokenError (List (String × Json)) := do
  let some (_, message) := cutLast token | throw .shape
  let some (payload, header) := cutLast message | throw .shape
  document headerShape.read (← part header)
  let bytes ← part payload
  let object ← document Json.readObject bytes
  document registeredShape.read bytes
  return object

/-- The first of the given claims whose value is a non-empty string; a repeated claim counts
by its last value. -/
def firstText (object : List (String × Json)) : List String → Option String
  | [] => none
  | k :: ks =>
    match (Json.obj object).field? k with
    | some (.str s) => if s.isEmpty then firstText object ks else some s
    | _ => firstText object ks

/-- The user id of an access token: `uid`, else `sub`. -/
def userId (token : String) : Except ExtractError String :=
  if token.isEmpty then .error .emptyToken
  else
    match claims token with
    | .error e => .error (.malformed e.message)
    | .ok object =>
      match firstText object ["uid", "sub"] with
      | some s => .ok s
      | none => .error .missingUserId

end Claims

end Warden
