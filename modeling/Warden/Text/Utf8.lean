/-!
# UTF-8

Encoding characters as UTF-8 bytes and decoding bytes back, strictly: a decoder accepts only
shortest forms, no surrogate code points and nothing above U+10FFFF.
-/

namespace Warden.Text

/-- The UTF-8 bytes of a code point. -/
def utf8Bytes (n : Nat) : List UInt8 :=
  if n < 0x80 then [n.toUInt8]
  else if n < 0x800 then [(0xC0 + n / 64).toUInt8, (0x80 + n % 64).toUInt8]
  else if n < 0x10000 then
    [(0xE0 + n / 4096).toUInt8, (0x80 + n / 64 % 64).toUInt8, (0x80 + n % 64).toUInt8]
  else
    [(0xF0 + n / 262144).toUInt8, (0x80 + n / 4096 % 64).toUInt8, (0x80 + n / 64 % 64).toUInt8,
      (0x80 + n % 64).toUInt8]

/-- The UTF-8 bytes of a text. -/
def encodeUtf8 (s : String) : List UInt8 :=
  s.toList.flatMap (fun c => utf8Bytes c.toNat)

/-- Whether a byte continues a sequence (`10xxxxxx`). -/
def isContinuation (b : UInt8) : Bool := b.toNat / 64 = 2

/-- Decodes UTF-8 bytes, or fails on any malformed sequence. -/
def decodeUtf8 : List UInt8 → Option (List Char)
  | [] => some []
  | b :: rest =>
    let n := b.toNat
    if n < 0x80 then (decodeUtf8 rest).map (Char.ofNat n :: ·)
    else if 0xC2 ≤ n ∧ n < 0xE0 then
      match rest with
      | c1 :: more =>
        if isContinuation c1 then
          (decodeUtf8 more).map (Char.ofNat ((n % 32) * 64 + c1.toNat % 64) :: ·)
        else none
      | _ => none
    else if 0xE0 ≤ n ∧ n < 0xF0 then
      match rest with
      | c1 :: c2 :: more =>
        let v := (n % 16) * 4096 + (c1.toNat % 64) * 64 + c2.toNat % 64
        if isContinuation c1 && isContinuation c2 && v ≥ 0x800 && !(0xD800 ≤ v && v ≤ 0xDFFF) then
          (decodeUtf8 more).map (Char.ofNat v :: ·)
        else none
      | _ => none
    else if 0xF0 ≤ n ∧ n < 0xF5 then
      match rest with
      | c1 :: c2 :: c3 :: more =>
        let v := (n % 8) * 262144 + (c1.toNat % 64) * 4096 + (c2.toNat % 64) * 64 + c3.toNat % 64
        if isContinuation c1 && isContinuation c2 && isContinuation c3 && v ≥ 0x10000
            && v ≤ 0x10FFFF then
          (decodeUtf8 more).map (Char.ofNat v :: ·)
        else none
      | _ => none
    else none

end Warden.Text
