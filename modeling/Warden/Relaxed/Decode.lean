import Warden.Relaxed.Message
import Warden.Json.Error

/-!
# Typed decoding of relaxed documents

Reading a parse tree into typed values. Every value is first seen as what it is — unit, a
boolean, text, an integer, a float, a sequence or a map — and a decoder either takes it or
fails naming it (`invalid type: unit value, expected a string`).

Numbers are read from their text. A number that looks like an integer (no point, and no
exponent unless it is hexadecimal) is read as a signed 64-bit integer; any other is read as a
binary64, where `Infinity` and `NaN` are allowed but a finite text that overflows is not.
Integer fields read any value as a binary64 and cast it, saturating at the bounds of the
field and taking `NaN` to zero, so that `1.9` days is one day and `-1` days is none; a value
that is not a number at all (text, `null`) fails there, since its text is no number.
Hexadecimal is read as an unsigned 32-bit integer.

Records are read from maps by name and from sequences by position, as in strict JSON, except
that unknown members are still read to the end and can fail, and extra elements of a sequence
are not read at all.
-/

namespace Warden

namespace Relaxed

/-- A decoding failure. -/
abbrev Decode := Except Problem

/-- Fails with a message. -/
def failWith {α : Type} (m : String) : Decode α := .error (.custom m)

/-- The text a node matched. -/
def Node.text (input : Array Char) (n : Node) : String :=
  String.ofList ((input.extract n.start n.stop).toList)

/-! ## Numbers -/

/-- Whether a number text is hexadecimal: `0x` or `0X` and more. -/
def isHexText (cs : List Char) : Bool :=
  cs.length > 2 && (cs.take 2 == ['0', 'x'] || cs.take 2 == ['0', 'X'])

/-- The character that byte offset `i` falls strictly inside, with the bytes it takes, for
characters starting at byte `a`. -/
def charAcross (i : Nat) : List Char → Nat → Option (Char × Nat × Nat)
  | [], _ => none
  | c :: rest, a =>
    if i ≤ a then none
    else if i < a + c.utf8Size then some (c, a, a + c.utf8Size)
    else charAcross i rest (a + c.utf8Size)

/-- Whether the text of a value is hexadecimal, tested on its first two bytes when it has
more than two. The text is not always a number: a quoted text given where a number belongs
is tested too, and when its second byte is inside a character, cutting it there faults. -/
def hexPrefixed (cs : List Char) : Decode Bool :=
  if cs.foldl (fun n c => n + c.utf8Size) 0 ≤ 2 then .ok false
  else
    match charAcross 2 cs 0 with
    | some (c, a, b) =>
      .error (.fault ("end byte index 2 is not a char boundary; it is inside " ++
        Text.charQuoted c ++ " (bytes " ++ toString a ++ ".." ++ toString b ++ " of string)"))
    | none => .ok (cs.take 2 == ['0', 'x'] || cs.take 2 == ['0', 'X'])

/-- The value of hexadecimal digits as an unsigned 32-bit integer: an optional `+`, then one
digit or more. -/
def hexU32 (cs : List Char) : Option Nat :=
  let ds := match cs with
    | '+' :: r => r
    | r => r
  if ds.isEmpty then none
  else
    let v := ds.foldl (fun acc c => acc.bind fun n =>
      if '0' ≤ c ∧ c ≤ '9' then some (n * 16 + (c.toNat - 48))
      else if 'a' ≤ c ∧ c ≤ 'f' then some (n * 16 + (c.toNat - 87))
      else if 'A' ≤ c ∧ c ≤ 'F' then some (n * 16 + (c.toNat - 55))
      else none) (some 0)
    v.bind fun n => if n ≤ 4294967295 then some n else none

/-- Reads hexadecimal digits as an unsigned 32-bit integer. -/
def parseHex (cs : List Char) : Decode Nat :=
  match hexU32 cs with
  | some n => .ok n
  | none => failWith "error parsing hex"

/-- Decimal digits as a number, if there are any. -/
def digitsValue (ds : List Char) : Option Nat :=
  if ds.isEmpty || !ds.all Relaxed.isDigit then none
  else some (ds.foldl (fun n c => n * 10 + (c.toNat - 48)) 0)

/-- Reads a signed 64-bit integer: an optional sign, then digits. -/
def parseI64 (cs : List Char) : Option Int :=
  let (neg, ds) := match cs with
    | '-' :: r => (true, r)
    | '+' :: r => (false, r)
    | r => (false, r)
  (digitsValue ds).bind fun n =>
    let v : Int := if neg then -(n : Int) else n
    if -9223372036854775808 ≤ v ∧ v ≤ 9223372036854775807 then some v else none

/-- Reads a decimal float: digits with an optional point and an optional exponent, at least one
digit before or after the point; rounded to nearest. -/
def parseDecimal (neg : Bool) (cs : List Char) : Option Binary64 :=
  let whole := cs.takeWhile Relaxed.isDigit
  let rest := cs.drop whole.length
  let (frac, rest) := match rest with
    | '.' :: r => let f := r.takeWhile Relaxed.isDigit; (f, r.drop f.length)
    | r => ([], r)
  if whole.isEmpty && frac.isEmpty then none
  else
    let expo : Option Int := match rest with
      | [] => some 0
      | e :: r =>
        if e = 'e' || e = 'E' then
          match r with
          | '-' :: ds => (digitsValue ds).map fun n => -(n : Int)
          | '+' :: ds => (digitsValue ds).map fun n => (n : Int)
          | ds => (digitsValue ds).map fun n => (n : Int)
        else none
    expo.map fun x =>
      let digits := (whole ++ frac).foldl (fun n c => n * 10 + (c.toNat - 48)) 0
      Binary64.ofDecimal neg digits (x - frac.length)

/-- Reads a float as the standard parser does: an optional sign, then `inf`, `infinity` or
`nan` in any letter case, or a decimal. -/
def parseF64 (cs : List Char) : Option Binary64 :=
  let (neg, body) := match cs with
    | '-' :: r => (true, r)
    | '+' :: r => (false, r)
    | r => (false, r)
  let word := String.ofList (body.map Char.toLower)
  if word = "inf" || word = "infinity" then some (.infinite neg)
  else if word = "nan" then some .nan
  else parseDecimal neg body

/-- Reads a number text as a binary64. -/
def parseNumber (s : String) : Decode Binary64 :=
  match s with
  | "Infinity" => .ok (.infinite false)
  | "-Infinity" => .ok (.infinite true)
  | "NaN" | "-NaN" => .ok .nan
  | _ => do
    let cs := s.toList
    if ← hexPrefixed cs then Binary64.ofNat <$> parseHex (cs.drop 2)
    else
      match parseF64 cs with
      | some v => if v.isFinite then .ok v else failWith "error parsing number: too large"
      | none => failWith "error parsing number"

/-- Reads a number text as a signed 64-bit integer. -/
def parseInteger (s : String) : Decode Int := do
  let cs := s.toList
  if ← hexPrefixed cs then (fun n => (n : Int)) <$> parseHex (cs.drop 2)
  else
    match parseI64 cs with
    | some v => .ok v
    | none => failWith "error parsing integer"

/-- Whether a number text names an infinity or `NaN`, with or without a sign. -/
def namesSpecial (s : String) : Bool :=
  ["Infinity", "-Infinity", "+Infinity", "NaN", "-NaN", "+NaN"].contains s

/-- Whether a number text reads as an integer: no point, no exponent unless it is
hexadecimal, and not an infinity or `NaN`. -/
def looksIntegral (s : String) : Bool :=
  let cs := s.toList
  !cs.contains '.' && (isHexText cs || (!cs.contains 'e' && !cs.contains 'E')) && !namesSpecial s

/-! ## Text -/

/-- The character of a code point that is not a surrogate. -/
def charOf? (n : Nat) : Option Char :=
  if h : n.isValidChar then some ⟨n.toUInt32, by
    simp only [Nat.isValidChar] at h
    simp only [UInt32.isValidChar, Nat.isValidChar, UInt32.toNat_ofNat', Nat.reducePow]
    omega⟩ else none

/-- What an escaped character stands for. -/
def escaped (c : String) : String :=
  match c with
  | "b" => "\x08"
  | "f" => "\x0C"
  | "n" => "\n"
  | "r" => "\r"
  | "t" => "\t"
  | "v" => "\x0B"
  | _ => c

/-- The text of the parts of a string or name: characters, escapes, and `\u` escapes, where a
leading surrogate takes the next part as its trailing one. -/
def partsText (input : Array Char) : List Node → Decode String
  | [] => .ok ""
  | p :: rest =>
    match p.rule with
    | .charLiteral => (p.text input ++ ·) <$> partsText input rest
    | .charEscape => (escaped (p.text input) ++ ·) <$> partsText input rest
    | .nulEscape => ("\x00" ++ ·) <$> partsText input rest
    | .hexEscape => do
      let n ← parseHex (p.text input).toList
      match charOf? n with
      | some c => (String.singleton c ++ ·) <$> partsText input rest
      | none => failWith "error parsing hex prefix"
    | .unicodeEscape => do
      let n ← parseHex (p.text input).toList
      if 0xDC00 ≤ n ∧ n ≤ 0xDFFF then failWith "unexpected unicode trail surrogate"
      else if 0xD800 ≤ n ∧ n ≤ 0xDBFF then
        match rest with
        | q :: more => do
          let m ← parseHex (q.text input).toList
          if 0xDC00 ≤ m ∧ m ≤ 0xDFFF then
            match charOf? (((n - 0xD800) <<< 10) ||| ((m - 0xDC00) + 0x10000)) with
            | some c => (String.singleton c ++ ·) <$> partsText input more
            | none => failWith "invalid (combined) surrogate"
          else failWith "expecting unicode trail surrogate"
        | [] => failWith "missing unicode trail surrogate"
      else
        match charOf? n with
        | some c => (String.singleton c ++ ·) <$> partsText input rest
        | none => failWith "invalid unicode character"
    | _ => partsText input rest

/-- The text of a string or name node. -/
def Node.unquote (input : Array Char) (n : Node) : Decode String := partsText input n.children

/-! ## Seeing a value -/

/-- A value as it is seen by a decoder. -/
inductive Seen where
  | unit
  | bool (b : Bool)
  | str (s : String)
  | int (n : Int)
  | float (v : Binary64)
  | seq (items : List Node)
  | map (members : List Node)

/-- What a seen value is, for an error. -/
def Seen.unexpected : Seen → Unexpected
  | .unit => .unit
  | .bool b => .bool b
  | .str s => .str s
  | .int n => .signed n
  | .float v => .float v
  | .seq _ => .seq
  | .map _ => .map

/-- Sees a value: text is unquoted, numbers are read. -/
def Node.seen (input : Array Char) (n : Node) : Decode Seen :=
  match n.rule with
  | .null => .ok .unit
  | .boolean => .ok (.bool (n.text input == "true"))
  | .string | .identifier => Seen.str <$> n.unquote input
  | .number =>
    let t := n.text input
    if looksIntegral t then Seen.int <$> parseInteger t else Seen.float <$> parseNumber t
  | .array => .ok (.seq n.children)
  | .object => .ok (.map n.children)
  | _ => .ok .unit

/-- Fails on a value of the wrong kind. -/
def wrongKind {α : Type} (found : Seen) (expected : String) : Decode α :=
  .error (.invalidType found.unexpected expected)

/-- Reads text. -/
def readText (expected : String) (input : Array Char) (n : Node) : Decode String := do
  match ← n.seen input with
  | .str s => .ok s
  | other => wrongKind other expected

/-- Reads a boolean. -/
def readBool (input : Array Char) (n : Node) : Decode Bool := do
  match ← n.seen input with
  | .bool b => .ok b
  | other => wrongKind other "a boolean"

/-- Reads an unsigned 64-bit integer field: any number, cast with saturation. -/
def readU64 (input : Array Char) (n : Node) : Decode Nat :=
  Binary64.toU64Saturating <$> parseNumber (n.text input)

/-- Reads a signed 64-bit integer field: any number, cast with saturation. -/
def readI64 (input : Array Char) (n : Node) : Decode Int :=
  Binary64.toI64Saturating <$> parseNumber (n.text input)

/-- Reads a sequence. -/
def readList {α : Type} (elem : Node → Decode α) (input : Array Char) (n : Node) : Decode (List α) := do
  match ← n.seen input with
  | .seq items => items.mapM elem
  | other => wrongKind other "a sequence"

/-- Reads an optional value: `null` is none. -/
def readOption {α : Type} (r : Node → Decode α) (n : Node) : Decode (Option α) :=
  if n.rule = .null then .ok none else some <$> r n

/-- Reads one of a list of names, as a string or as the first key of an object. -/
def readVariant (names : List String) (input : Array Char) (n : Node) : Decode Nat := do
  let pick (s : String) : Decode Nat :=
    match names.findIdx? (· == s) with
    | some i => .ok i
    | none => .error (.unknownVariant s names)
  match n.rule with
  | .string => pick (← n.unquote input)
  | .object =>
    match n.children with
    | k :: _ :: _ => pick (← k.unquote input)
    | _ => failWith "expected a nonempty object"
  | _ => failWith "expected a string or an object"

mutual

/-- Reads a value to the end without keeping it; its text and numbers must still read. -/
def skipValue (input : Array Char) : Node → Decode Unit
  | .mk r s e cs =>
    match r with
    | .array | .object => skipAll input cs
    | _ => do let _ ← (Node.mk r s e cs).seen input; pure ()

/-- Reads values to the end without keeping them. -/
def skipAll (input : Array Char) : List Node → Decode Unit
  | [] => .ok ()
  | n :: rest => do skipValue input n; skipAll input rest

end

/-! ## Records -/

/-- What a record does when a field is missing. -/
inductive Absent where
  | required
  | defaulted
  deriving DecidableEq

/-- One field of a record being built in `σ`. -/
structure Field (σ : Type) where
  name : String
  absent : Absent
  read : σ → Node → Decode σ

/-- A record: its name, its fields in declaration order, and its defaults. -/
structure Shape (σ : Type) where
  name : String
  fields : List (Field σ)
  init : σ

namespace Shape

variable {σ : Type}

/-- Reads the members of a map, key and value in turn. -/
def byName (s : Shape σ) (input : Array Char) : List Node → σ → List String → Decode (σ × List String)
  | k :: v :: rest, st, seen => do
    let name ← k.unquote input
    match s.fields.find? (·.name == name) with
    | some f =>
      if seen.contains name then .error (.duplicateField name)
      else byName s input rest (← f.read st v) (name :: seen)
    | none =>
      skipValue input v
      byName s input rest st seen
  | _, st, seen => .ok (st, seen)

/-- Reads fields by position; missing ones take their defaults or fail. -/
def byPosition (s : Shape σ) : List (Field σ) → List Node → Nat → σ → Decode σ
  | [], _, _, st => .ok st
  | f :: fs, item :: items, i, st => do byPosition s fs items (i + 1) (← f.read st item)
  | f :: fs, [], i, st =>
    if f.absent = .defaulted then byPosition s fs [] (i + 1) st
    else
      let n := s.fields.length
      .error (.invalidLength i ("struct " ++ s.name ++ " with " ++ toString n ++
        (if n = 1 then " element" else " elements")))

/-- Reads a record from a map or a sequence. -/
def read (s : Shape σ) (input : Array Char) (n : Node) : Decode σ := do
  match ← n.seen input with
  | .map members =>
    let (st, seen) ← s.byName input members s.init []
    match s.fields.find? (fun f => f.absent = .required && !seen.contains f.name) with
    | some f => .error (.missingField f.name)
    | none => .ok st
  | .seq items => s.byPosition s.fields items 0 s.init
  | other => wrongKind other ("struct " ++ s.name)

end Shape

/-- Why a document was not read: a report on the text, or a fault of the reader itself. -/
inductive ReadFailure where
  | report (message : String)
  | fault (message : String)
  deriving DecidableEq, Repr

/-- Reads a whole document with a decoder; a syntax error is reported with its place, a
decoding error by its message alone, and a fault as it is. -/
def readDocument {α : Type} (text : String) (r : Array Char → Node → Decode α) :
    Except ReadFailure α :=
  let input := text.toList.toArray
  match parse input with
  | .error e => .error (.report (e.render input))
  | .ok n =>
    match r input n with
    | .ok v => .ok v
    | .error (.fault m) => .error (.fault m)
    | .error p => .error (.report (p.message .relaxed))

end Relaxed

end Warden
