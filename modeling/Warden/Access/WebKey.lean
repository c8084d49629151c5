import Warden.Json.Decode

/-!
# The key a token header may carry

A token header may embed a public key (`jwk`). Its signature is never checked here, but the
key must still read as a key: an object whose members split into common parameters and the
parameters of one kind of key.

The common parameters are `use`, `key_ops`, `alg`, `kid`, `x5u`, `x5c`, `x5t` and
`x5t#S256`; each may be null, each appears at most once, and each must have its kind: texts,
lists of texts, and for `alg` one of the key algorithms. They are checked first, in the order
they appear, and the first wrong one is the error.

What is left must be the parameters of one of four kinds of key, tried in this order, each
with all of its members present, of the right kind and given once, and others ignored:

* an elliptic-curve key: `kty` `EC`, a curve `crv`, texts `x` and `y`;
* an RSA key: `kty` `RSA`, texts `n` and `e`;
* an octet key: `kty` `oct`, a text `k`;
* an octet key pair: `kty` `OKP`, a curve `crv`, a text `x`.

When no kind fits, the key does not match any of them. Every such error is placed after the
key's closing brace, since the key is read whole before it is checked.
-/

namespace Warden

namespace WebKey

/-- What a value shows when it has the wrong kind. -/
def unexpectedOf : Json → Unexpected
  | .null => .unit
  | .bool b => .bool b
  | .int n => if n ≥ 0 then .unsigned n.toNat else .signed n
  | .float v => .float v
  | .str s => .str s
  | .arr _ => .seq
  | .obj _ => .map

/-- Reads a text. -/
def text : Json → Except Problem Unit
  | .str _ => .ok ()
  | v => .error (.invalidType (unexpectedOf v) "a string")

/-- Reads a list of texts. -/
def texts : Json → Except Problem Unit
  | .arr xs => xs.forM text
  | v => .error (.invalidType (unexpectedOf v) "a sequence")

/-- Reads a value that may be null. -/
def nullable (r : Json → Except Problem Unit) : Json → Except Problem Unit
  | .null => .ok ()
  | v => r v

/-- Reads one of a list of names without data: a text, or an object with the name as its one
member and null as its value. -/
def variant (names : List String) : Json → Except Problem Unit
  | .str s => if names.contains s then .ok () else .error (.unknownVariant s names)
  | .obj [(s, v)] =>
    if !names.contains s then .error (.unknownVariant s names)
    else
      match v with
      | .null => .ok ()
      | other => .error (.invalidType (unexpectedOf other) "unit variant")
  | .obj _ => .error (.invalidValue .map "map with a single key")
  | v => .error (.invalidType (unexpectedOf v) "string or map")

/-- The key algorithms a key may name. -/
def keyAlgorithms : List String :=
  ["HS256", "HS384", "HS512", "ES256", "ES384", "RS256", "RS384", "RS512", "PS256", "PS384",
    "PS512", "EdDSA", "RSA1_5", "RSA-OAEP", "RSA-OAEP-256"]

/-- The curves a key may name. -/
def curves : List String := ["P-256", "P-384", "P-521", "Ed25519"]

/-- The common parameters, each with how its value is read. -/
def common : List (String × (Json → Except Problem Unit)) :=
  [("use", nullable text), ("key_ops", nullable texts), ("alg", nullable (variant keyAlgorithms)),
    ("kid", nullable text), ("x5u", nullable text), ("x5c", nullable texts), ("x5t", nullable text),
    ("x5t#S256", nullable text)]

/-- Checks the common parameters among the members, in order; gives the other members. -/
def checkCommon (members : List (String × Json)) : Except Problem (List (String × Json)) := do
  let (_, rest) ← members.foldlM (fun (seen, rest) (k, v) => do
    match common.lookup k with
    | some r =>
      if seen.contains k then throw (.duplicateField k)
      r v
      pure (k :: seen, rest)
    | none => pure (seen, rest ++ [(k, v)])) (([] : List String), ([] : List (String × Json)))
  pure rest

/-- The parameters of a kind of key: its `kty` name and its other members with their readers. -/
structure KeyKind where
  kty : String
  fields : List (String × (Json → Except Problem Unit))

/-- The kinds of key, in the order they are tried. -/
def kinds : List KeyKind :=
  [⟨"EC", [("crv", variant curves), ("x", text), ("y", text)]⟩,
    ⟨"RSA", [("n", text), ("e", text)]⟩,
    ⟨"oct", [("k", text)]⟩,
    ⟨"OKP", [("crv", variant curves), ("x", text)]⟩]

/-- Whether members are the parameters of a kind of key. -/
def KeyKind.fits (kind : KeyKind) (members : List (String × Json)) : Bool :=
  let all := ("kty", variant [kind.kty]) :: kind.fields
  all.all fun (name, r) =>
    match members.filter (·.1 == name) with
    | [(_, v)] => (r v).toOption.isSome
    | _ => false

/-- Checks a key given as its members. -/
def check (members : List (String × Json)) : Except Problem Unit := do
  let rest ← checkCommon members
  if kinds.any (·.fits rest) then pure ()
  else throw (.custom "data did not match any variant of untagged enum AlgorithmParameters")

/-- Reads a key: an object of members, checked once it is read whole. -/
def read : Json.Reader Unit :=
  Json.typed fun b =>
    if b = Json.byte '{' then do
      match check (← Json.readObject) with
      | .ok () => pure ()
      | .error p => Json.fail p
    else Json.wrongKind "struct Jwk"

end WebKey

end Warden
