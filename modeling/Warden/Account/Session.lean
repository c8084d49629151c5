import Warden.Json.Decode

/-!
# Sessions and their tokens

A session ties a user to the token pair the identity provider issued at login. It is stored
under an opaque identifier, which is a bearer secret: it is never written whole into a
diagnostic text, only its first eight characters followed by an ellipsis. Token values are
secrets too, and their diagnostic text replaces them with `[REDACTED]`.

Each record has a JSON form with snake-case keys, read back by a record decoder whose fields
follow the declaration order; only a token's expiry has a default (zero).
-/

namespace Warden

/-- A token issued by the identity provider and its expiry in Unix seconds (zero: unknown). -/
structure Token where
  value : String
  expiresAt : Int
  deriving DecidableEq, Repr

namespace Token

/-- The empty token. -/
def empty : Token := ⟨"", 0⟩

/-- The diagnostic text: the value is never shown. -/
def dump (t : Token) : String :=
  "Token \x7b value: \"[REDACTED]\", expires_at: " ++ toString t.expiresAt ++ " \x7d"

/-- The JSON form. -/
def toJson (t : Token) : Json := .obj [("value", .str t.value), ("expires_at", .int t.expiresAt)]

/-- The JSON record of a token. -/
def shape : Json.Shape Token where
  name := "Token"
  fields := [
    ⟨"value", .required, fun t => do return { t with value := ← Json.readString }⟩,
    ⟨"expires_at", .defaulted, fun t => do return { t with expiresAt := ← Json.readI64 }⟩]
  init := empty

end Token

/-- The access and refresh tokens of a login, and the kind of token they are. -/
structure TokenPair where
  access : Token
  refresh : Token
  kind : String
  deriving DecidableEq, Repr

namespace TokenPair

/-- The empty pair. -/
def empty : TokenPair := ⟨Token.empty, Token.empty, ""⟩

/-- The diagnostic text. -/
def dump (p : TokenPair) : String :=
  "TokenPair \x7b access_token: " ++ p.access.dump ++ ", refresh_token: " ++ p.refresh.dump
    ++ ", token_type: " ++ Text.quoted p.kind ++ " \x7d"

/-- The JSON form. -/
def toJson (p : TokenPair) : Json :=
  .obj [("access_token", p.access.toJson), ("refresh_token", p.refresh.toJson),
    ("token_type", .str p.kind)]

/-- The JSON record of a token pair. -/
def shape : Json.Shape TokenPair where
  name := "TokenPair"
  fields := [
    ⟨"access_token", .required, fun p => do return { p with access := ← Token.shape.read }⟩,
    ⟨"refresh_token", .required, fun p => do return { p with refresh := ← Token.shape.read }⟩,
    ⟨"token_type", .required, fun p => do return { p with kind := ← Json.readString }⟩]
  init := empty

end TokenPair

/-- A server-side session: its owner and the tokens captured at login. -/
structure Session where
  userId : String
  tokens : TokenPair
  deriving DecidableEq, Repr

namespace Session

/-- The JSON form. -/
def toJson (s : Session) : Json := .obj [("user_id", .str s.userId), ("token", s.tokens.toJson)]

/-- The JSON record of a session. -/
def shape : Json.Shape Session where
  name := "Session"
  fields := [
    ⟨"user_id", .required, fun s => do return { s with userId := ← Json.readString }⟩,
    ⟨"token", .required, fun s => do return { s with tokens := ← TokenPair.shape.read }⟩]
  init := ⟨"", TokenPair.empty⟩

end Session

/-- The opaque identifier of a session. -/
structure SessionId where
  text : String
  deriving DecidableEq, Repr

namespace SessionId

/-- Whether the identifier is empty. -/
def isEmpty (id : SessionId) : Bool := id.text.isEmpty

/-- The first eight characters and an ellipsis: what may be shown of an identifier. -/
def redacted (id : SessionId) : String := String.ofList (id.text.toList.take 8) ++ "…"

/-- The diagnostic text. -/
def dump (id : SessionId) : String := "SessionId(" ++ id.redacted ++ ")"

end SessionId

end Warden
