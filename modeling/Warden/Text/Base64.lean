/-!
# URL-safe base64 without padding

Decoding of the URL-safe alphabet (`A–Z a–z 0–9 - _`), where padding is refused. The input is
read in quads of four symbols; the last quad, complete or not, is the suffix, and it is where
padding, short input and stray low bits are caught. The errors name the first offending byte
and its offset, so that a caller can point at it:

* a byte outside the alphabet, including `=` anywhere but at the end of the suffix;
* a suffix of one symbol, which cannot hold a byte;
* padding at the end, which this alphabet does not use;
* a last symbol with low bits set that no output byte takes, which would make two encodings
  of the same bytes.

An input whose length leaves one symbol over is checked first for a stray last byte (a
newline, say), which is reported before anything else.
-/

namespace Warden.Text

/-- Why a text is not URL-safe base64. -/
inductive Base64Error where
  | invalidByte (offset : Nat) (byte : UInt8)
  | invalidLength (length : Nat)
  | invalidLastSymbol (offset : Nat) (byte : UInt8)
  | invalidPadding
  deriving DecidableEq, Repr

namespace Base64Error

/-- The message. -/
def message : Base64Error → String
  | invalidByte i b => "Invalid symbol " ++ toString b.toNat ++ ", offset " ++ toString i ++ "."
  | invalidLength n => "Invalid input length: " ++ toString n
  | invalidLastSymbol i b => "Invalid last symbol " ++ toString b.toNat ++ ", offset " ++ toString i ++ "."
  | invalidPadding => "Invalid padding"

end Base64Error

/-- The six-bit value of a symbol of the URL-safe alphabet. -/
def base64Value (b : UInt8) : Option Nat :=
  let n := b.toNat
  if 65 ≤ n ∧ n ≤ 90 then some (n - 65)
  else if 97 ≤ n ∧ n ≤ 122 then some (n - 71)
  else if 48 ≤ n ∧ n ≤ 57 then some (n + 4)
  else if n = 45 then some 62
  else if n = 95 then some 63
  else none

/-- The padding byte `=`. -/
def padByte : UInt8 := 61

/-- The values of symbols, or the first byte that is not a symbol with its offset. -/
def base64Values : List UInt8 → Nat → Except Base64Error (List Nat)
  | [], _ => .ok []
  | b :: rest, i =>
    match base64Value b with
    | some v => (v :: ·) <$> base64Values rest (i + 1)
    | none => .error (.invalidByte i b)

/-- The bytes of a group of six-bit values, most significant first, dropping the bits that do
not fill a byte. -/
def bytesOfValues (vs : List Nat) : List UInt8 :=
  let bits := vs.foldl (fun acc v => acc * 64 + v) 0
  let width := 6 * vs.length
  let count := width / 8
  (List.range count).map fun k => (bits / Nat.pow 2 (width - 8 * (k + 1)) % 256).toUInt8

/-- Reads the suffix, which starts at offset `start`: symbols, then padding only. -/
def suffixValues (start : Nat) : List UInt8 → Nat → Option Nat → List Nat → Except Base64Error (List Nat × Bool)
  | [], _, firstPad, acc => .ok (acc.reverse, firstPad.isSome)
  | b :: rest, k, firstPad, acc =>
    if b = padByte then
      if k < 2 then .error (.invalidByte (start + k) b)
      else suffixValues start rest (k + 1) (some (firstPad.getD k)) acc
    else
      match firstPad with
      | some p => .error (.invalidByte (start + p) padByte)
      | none =>
        match base64Value b with
        | some v => suffixValues start rest (k + 1) none (v :: acc)
        | none => .error (.invalidByte (start + k) b)

/-- Decodes URL-safe base64 without padding. -/
def decodeBase64Url (input : List UInt8) : Except Base64Error (List UInt8) := do
  let len := input.length
  let rem := len % 4
  if rem = 1 then
    match input.getLast? with
    | some b => if b ≠ padByte ∧ (base64Value b).isNone then throw (.invalidByte (len - 1) b)
    | none => pure ()
  let body := len - rem - (if rem = 0 then 4 else 0)
  let quads ← base64Values (input.take body) 0
  let (vs, padded) ← suffixValues body (input.drop body) 0 none []
  if len ≠ 0 ∧ vs.length < 2 then throw (.invalidLength (body + vs.length))
  if padded then throw .invalidPadding
  let out := bytesOfValues vs
  let used := 8 * out.length
  let bits := vs.foldl (fun acc v => acc * 64 + v) 0
  if bits % Nat.pow 2 (6 * vs.length - used) ≠ 0 then
    throw (.invalidLastSymbol (body + vs.length - 1) ((input.drop body).getD (vs.length - 1) 0))
  let whole := (List.range (quads.length / 4)).flatMap fun q => bytesOfValues ((quads.drop (4 * q)).take 4)
  return whole ++ out

end Warden.Text
