import Warden.Json.Error
import Warden.Json.Value
import Warden.Text.Utf8

/-!
# The JSON reader

A reader walks the bytes of a document once, from left to right, and never looks back. It keeps
its place as a byte index together with the current line, so that every error can say where it
was found. A syntax error is placed either *here* (after the bytes read so far) or *ahead* (just
past the next byte), as each check decides; a problem of the typed layer gets the place of the
reader at the moment it passes back through a value.

A failed read leaves the reader where it stopped: the reader state lives outside the error
layer, so that what was consumed before a failure stays consumed. This matters because a
container is closed, and its closing bracket consumed, even when reading its contents failed,
before the error is placed.

Strings are checked on the way: control characters are refused, escapes are decoded, a
surrogate escape must be followed by its partner, and the bytes must be UTF-8. Numbers are
read as an unsigned integer, a negative integer, or a binary64 value, the last one built the
fast way: the significand rounded once and then multiplied or divided by a rounded power of
ten.
-/

namespace Warden

namespace Json

/-- The reader's place: the bytes still to read, the index of the next byte, the current line,
the index where that line starts, and how many more containers may be opened. -/
structure Cursor where
  rest : List UInt8
  index : Nat
  line : Nat
  lineStart : Nat
  depth : Nat

namespace Cursor

/-- A reader at the start of a document. At most 127 containers may be open at once. -/
def start (bytes : List UInt8) : Cursor := ⟨bytes, 0, 1, 0, 128⟩

/-- The cursor after one more byte. -/
def advance (c : Cursor) : Cursor :=
  match c.rest with
  | [] => c
  | b :: r =>
    if b = 10 then { c with rest := r, index := c.index + 1, line := c.line + 1, lineStart := c.index + 1 }
    else { c with rest := r, index := c.index + 1 }

/-- The cursor after `n` more bytes. -/
def advanceBy : Cursor → Nat → Cursor
  | c, 0 => c
  | c, n + 1 => c.advance.advanceBy n

/-- The place after the bytes read so far. -/
def here (c : Cursor) : Nat × Nat := (c.line, c.index - c.lineStart)

/-- The place just past the next byte. -/
def ahead (c : Cursor) : Nat × Nat := (c.advance).here

end Cursor

/-- A reader: it may fail, and its place survives a failure. -/
abbrev Reader := ExceptT JsonError (StateM Cursor)

/-- The next byte, without reading it. -/
def peek : Reader (Option UInt8) := do return (← get).rest.head?

/-- Reads one byte. -/
def eat : Reader Unit := modify Cursor.advance

/-- Reads `n` bytes. -/
def eatN (n : Nat) : Reader Unit := modify (·.advanceBy n)

/-- Reads and returns the next byte. -/
def next : Reader (Option UInt8) := do
  let b ← peek
  eat
  return b

/-- Fails with a syntax error placed here. -/
def failHere {α : Type} (code : SyntaxCode) : Reader α := do
  let (l, c) := (← get).here
  throw ⟨.malformed code, l, c⟩

/-- Fails with a syntax error placed just past the next byte. -/
def failAhead {α : Type} (code : SyntaxCode) : Reader α := do
  let (l, c) := (← get).ahead
  throw ⟨.malformed code, l, c⟩

/-- Fails with a problem of the typed layer, not yet placed. -/
def fail {α : Type} (p : Problem) : Reader α := throw (JsonError.ofProblem p)

/-- Gives an unplaced error the place of the reader now. -/
def placeHere (e : JsonError) : Reader JsonError := do
  if e.line = 0 then
    let (l, c) := (← get).here
    return { e with line := l, column := c }
  else return e

/-- Runs a reader and places any unplaced error it raises at the place where it stopped. -/
def placed {α : Type} (r : Reader α) : Reader α :=
  tryCatch r (fun e => do throw (← placeHere e))

/-- Runs a reader and returns its outcome as a value, keeping the place it reached. -/
def attempt {α : Type} (r : Reader α) : Reader (Except JsonError α) :=
  tryCatch (Except.ok <$> r) (fun e => pure (.error e))

/-- The byte of a character. -/
def byte (c : Char) : UInt8 := c.toNat.toUInt8

/-- The blanks of JSON: space, line feed, tab and carriage return. -/
def isBlankByte (b : UInt8) : Bool := b = 32 || b = 10 || b = 9 || b = 13

/-- Whether a byte is an ASCII digit. -/
def isDigitByte (b : UInt8) : Bool := 48 ≤ b && b ≤ 57

/-- Skips blanks and returns the next byte. -/
def skipBlank : Reader (Option UInt8) := do
  modify fun c => c.advanceBy (c.rest.takeWhile isBlankByte).length
  peek

/-- Reads the rest of a keyword whose first byte was read. -/
def keyword : List UInt8 → Reader Unit
  | [] => pure ()
  | e :: es => do
    match ← next with
    | none => failHere .eofWhileParsingValue
    | some b => if b = e then keyword es else failHere .expectedIdent

/-! ## Strings -/

/-- The value of a hexadecimal digit byte. -/
def hexByteValue (b : UInt8) : Option Nat :=
  let n := b.toNat
  if 48 ≤ n ∧ n ≤ 57 then some (n - 48)
  else if 65 ≤ n ∧ n ≤ 70 then some (n - 55)
  else if 97 ≤ n ∧ n ≤ 102 then some (n - 87)
  else none

/-- Reads four hexadecimal digits of a `\u` escape. Fewer than four bytes left is the end of
the input inside a string; a byte that is not a hex digit fails right after it. -/
def hexEscape : Reader Nat := do
  let c ← get
  if c.rest.length < 4 then
    eatN c.rest.length
    failHere .eofWhileParsingString
  else
    let rec digits : Nat → Nat → Reader Nat
      | 0, acc => pure acc
      | k + 1, acc => do
        match ← next with
        | some b =>
          match hexByteValue b with
          | some v => digits k (acc * 16 + v)
          | none => failHere .invalidEscape
        | none => failHere .eofWhileParsingString
    digits 4 0

/-- The next byte inside a string, which must exist. -/
def stringByte : Reader UInt8 := do
  match ← next with
  | some b => pure b
  | none => failHere .eofWhileParsingString

/-- Decodes a `\u` escape whose `u` was read, and returns its UTF-8 bytes. A leading surrogate
must be followed by `\u` and a trailing one. -/
def unicodeEscape : Reader (List UInt8) := do
  let n ← hexEscape
  if 0xDC00 ≤ n ∧ n ≤ 0xDFFF then failHere .loneLeadingSurrogate
  else if n < 0xD800 ∨ n > 0xDBFF then pure (Text.utf8Bytes n)
  else
    match ← peek with
    | none => failHere .eofWhileParsingString
    | some b =>
      eat
      if b ≠ byte '\\' then failHere .unexpectedEndOfHexEscape
      else
        match ← peek with
        | none => failHere .eofWhileParsingString
        | some u =>
          eat
          if u ≠ byte 'u' then failHere .unexpectedEndOfHexEscape
          else
            let m ← hexEscape
            if m < 0xDC00 ∨ m > 0xDFFF then failHere .loneLeadingSurrogate
            else pure (Text.utf8Bytes (((n - 0xD800) * 1024 + (m - 0xDC00)) + 0x10000))

/-- Decodes an escape whose backslash was read. -/
def escape : Reader (List UInt8) := do
  let b ← stringByte
  match b.toNat with
  | 34 => pure [34]
  | 92 => pure [92]
  | 47 => pure [47]
  | 98 => pure [8]
  | 102 => pure [12]
  | 110 => pure [10]
  | 114 => pure [13]
  | 116 => pure [9]
  | 117 => unicodeEscape
  | _ => failHere .invalidEscape

/-- Reads the body of a string whose opening quote was read, up to and including the closing
quote, with at most `fuel` steps. `acc` holds the bytes so far, last first. -/
def stringBody : Nat → List UInt8 → Reader (List UInt8)
  | 0, _ => failHere .eofWhileParsingString
  | fuel + 1, acc => do
    match ← peek with
    | none => failHere .eofWhileParsingString
    | some b =>
      if b = 34 then
        let bytes := acc.reverse
        match Text.decodeUtf8 bytes with
        | some _ => eat; pure bytes
        | none => failHere .invalidUnicodeCodePoint
      else if b = 92 then
        eat
        let bs ← escape
        stringBody fuel (bs.reverse ++ acc)
      else if b < 32 then
        eat
        failHere .controlCharacterInString
      else
        eat
        stringBody fuel (b :: acc)

/-- Reads a string whose opening quote was read. -/
def string : Reader String := do
  let bytes ← stringBody ((← get).rest.length + 1) []
  pure (String.ofList ((Text.decodeUtf8 bytes).getD []))

/-- Skips an escape whose backslash was read, without checking what it stands for. -/
def skipEscape : Reader Unit := do
  let b ← stringByte
  if b = 34 || b = 92 || b = 47 || b = 98 || b = 102 || b = 110 || b = 114 || b = 116 then
    pure ()
  else if b = 117 then
    let _ ← hexEscape
    pure ()
  else failHere .invalidEscape

/-- Skips the body of a string whose opening quote was read. -/
def skipStringBody : Nat → Reader Unit
  | 0 => failHere .eofWhileParsingString
  | fuel + 1 => do
    match ← peek with
    | none => failHere .eofWhileParsingString
    | some b =>
      if b = 34 then eat
      else if b = 92 then
        eat
        skipEscape
        skipStringBody fuel
      else if b < 32 then failHere .controlCharacterInString
      else
        eat
        skipStringBody fuel

/-- Skips a string whose opening quote was read. -/
def skipString : Reader Unit := do
  skipStringBody ((← get).rest.length + 1)

/-! ## Numbers -/

/-- A number as read: an unsigned integer, a negative integer, or a binary64 value. -/
inductive Number where
  | unsigned (n : Nat)
  | negative (n : Int)
  | float (v : Binary64)
  deriving Repr

/-- What a number is, when it does not fit. -/
def Number.unexpected : Number → Unexpected
  | .unsigned n => .unsigned n
  | .negative n => .signed n
  | .float v => .float v

/-- The largest unsigned 64-bit integer. -/
def u64Max : Nat := 18446744073709551615

/-- Ten to the power `k`, rounded, for `k ≤ 308`. -/
def powTen (k : Nat) : Binary64 := Binary64.ofRat false (Nat.pow 10 k) 1

/-- `significand · 10^exponent` the fast way: the significand rounded, then multiplied or
divided by a rounded power of ten; powers past 308 are taken 308 at a time while dividing.
A product that overflows is out of range. -/
def fromParts (positive : Bool) (significand : Nat) (exponent : Int) : Reader Binary64 := do
  let rec go : Nat → Binary64 → Int → Reader Binary64
    | 0, f, _ => pure f
    | fuel + 1, f, e =>
      if e.natAbs ≤ 308 then
        if e ≥ 0 then
          let g := f.mul (powTen e.natAbs)
          if g.isFinite then pure g else failHere .numberOutOfRange
        else pure (f.div (powTen e.natAbs))
      else if f.isZero then pure f
      else if e ≥ 0 then failHere .numberOutOfRange
      else go fuel (f.div (powTen 308)) (e + 308)
  let f ← go 10 (Binary64.ofNat significand) exponent
  pure (if positive then f else f.neg)

/-- The digits at the front of the input. -/
def frontDigits : Reader (List UInt8) := do return (← get).rest.takeWhile isDigitByte

/-- Adds digits to a significand while it stays within 64 bits; returns the significand, the
number of digits taken, and whether a digit was left because it would overflow. -/
def accumulate (sig : Nat) : List UInt8 → Nat × Nat × Bool
  | [] => (sig, 0, false)
  | d :: ds =>
    let v := sig * 10 + (d.toNat - 48)
    if v > u64Max then (sig, 0, true)
    else
      let (s, k, o) := accumulate v ds
      (s, k + 1, o)

/-- Reads an exponent whose `e` is next. -/
def exponentPart (positive : Bool) (significand : Nat) (start : Int) : Reader Binary64 := do
  eat
  let positiveExp ← do
    match ← peek with
    | some b =>
      if b = byte '+' then eat; pure true
      else if b = byte '-' then eat; pure false
      else pure true
    | none => pure true
  match ← next with
  | none => failHere .eofWhileParsingValue
  | some b =>
    if !isDigitByte b then failHere .invalidNumber
    else
      let ds ← frontDigits
      -- the exponent overflows a signed 32-bit integer at the first digit that passes it
      let rec build : Nat → List UInt8 → Nat × Nat × Bool
        | v, [] => (v, 0, false)
        | v, d :: rest =>
          let w := v * 10 + (d.toNat - 48)
          if w > 2147483647 then (v, 1, true)
          else let (x, k, o) := build w rest; (x, k + 1, o)
      let (e, used, overflow) := build (b.toNat - 48) ds
      eatN used
      if overflow then
        if significand ≠ 0 && positiveExp then failHere .numberOutOfRange
        else
          eatN (← frontDigits).length
          pure (if positive then Binary64.zero false else Binary64.zero true)
      else
        let total : Int := if positiveExp then start + e else start - e
        let clamped : Int := max (-2147483648) (min 2147483647 total)
        fromParts positive significand clamped

/-- Reads a fraction whose point is next. -/
def fractionPart (positive : Bool) (significand : Nat) (start : Int) : Reader Binary64 := do
  eat
  let ds ← frontDigits
  let (sig, used, overflow) := accumulate significand ds
  eatN used
  if overflow then
    -- the digit that would overflow and all after it are dropped
    eatN (← frontDigits).length
    let e := start - used
    match ← peek with
    | some b =>
      if b = byte 'e' || b = byte 'E' then exponentPart positive sig e else fromParts positive sig e
    | none => fromParts positive sig e
  else if used = 0 then
    match ← peek with
    | some _ => failAhead .invalidNumber
    | none => failAhead .eofWhileParsingValue
  else
    let e := start - used
    match ← peek with
    | some b =>
      if b = byte 'e' || b = byte 'E' then exponentPart positive sig e else fromParts positive sig e
    | none => fromParts positive sig e

/-- What follows the integer digits: a fraction, an exponent, or the end of the number. -/
def numberTail (positive : Bool) (sig : Nat) : Reader Number := do
  match ← peek with
  | some b =>
    if b = byte '.' then .float <$> fractionPart positive sig 0
    else if b = byte 'e' || b = byte 'E' then .float <$> exponentPart positive sig 0
    else pure (finish sig)
  | none => pure (finish sig)
where
  finish (sig : Nat) : Number :=
    if positive then .unsigned sig
    else if 1 ≤ sig ∧ sig ≤ 9223372036854775808 then .negative (-(sig : Int))
    else .float (Binary64.ofNat sig).neg

/-- Reads a number whose sign, if any, was read. -/
def number (positive : Bool) : Reader Number := do
  match ← next with
  | none => failHere .eofWhileParsingValue
  | some b =>
    if b = byte '0' then
      match ← peek with
      | some d => if isDigitByte d then failAhead .invalidNumber else numberTail positive 0
      | none => numberTail positive 0
    else if isDigitByte b then
      let ds ← frontDigits
      let (sig, used, overflow) := accumulate (b.toNat - 48) ds
      eatN used
      if overflow then
        let more ← frontDigits
        eatN more.length
        let e : Int := more.length
        match ← peek with
        | some c =>
          if c = byte '.' then .float <$> fractionPart positive sig e
          else if c = byte 'e' || c = byte 'E' then .float <$> exponentPart positive sig e
          else .float <$> fromParts positive sig e
        | none => .float <$> fromParts positive sig e
      else numberTail positive sig
    else failHere .invalidNumber

/-- Skips an exponent whose `e` is next. -/
def skipExponent : Reader Unit := do
  eat
  match ← peek with
  | some b => if b = byte '+' || b = byte '-' then eat else pure ()
  | none => pure ()
  match ← peek with
  | some b =>
    eat
    if isDigitByte b then eatN (← frontDigits).length else failHere .invalidNumber
  | none => failHere .invalidNumber

/-- Skips a number whose sign, if any, was read, checking only its shape. -/
def skipNumber : Reader Unit := do
  match ← peek with
  | some b =>
    eat
    if b = byte '0' then
      match ← peek with
      | some d => if isDigitByte d then failAhead .invalidNumber else pure ()
      | none => pure ()
    else if isDigitByte b then eatN (← frontDigits).length
    else failHere .invalidNumber
  | none => failHere .invalidNumber
  match ← peek with
  | some b =>
    if b = byte '.' then
      eat
      let ds ← frontDigits
      if ds.isEmpty then failAhead .invalidNumber
      else
        eatN ds.length
        match ← peek with
        | some c => if c = byte 'e' || c = byte 'E' then skipExponent else pure ()
        | none => pure ()
    else if b = byte 'e' || b = byte 'E' then skipExponent
    else pure ()
  | none => pure ()

/-! ## Skipping values -/

mutual

/-- Skips one value of any kind, checking its syntax; containers may nest without limit. -/
def skipValue : Nat → Reader Unit
  | 0 => failAhead .recursionLimitExceeded
  | fuel + 1 => do
    match ← skipBlank with
    | none => failAhead .eofWhileParsingValue
    | some b =>
      if b = byte 'n' then eat; keyword (String.toUTF8 "ull").toList
      else if b = byte 't' then eat; keyword (String.toUTF8 "rue").toList
      else if b = byte 'f' then eat; keyword (String.toUTF8 "alse").toList
      else if b = byte '-' then eat; skipNumber
      else if isDigitByte b then skipNumber
      else if b = byte '"' then eat; skipString
      else if b = byte '[' then
        eat
        match ← skipBlank with
        | none => failAhead .eofWhileParsingList
        | some c => if c = byte ']' then eat else skipItems fuel
      else if b = byte '{' then
        eat
        match ← skipBlank with
        | none => failAhead .eofWhileParsingObject
        | some c => if c = byte '}' then eat else skipMembers fuel
      else failAhead .expectedValue

/-- Skips array items up to the closing bracket. -/
def skipItems : Nat → Reader Unit
  | 0 => failAhead .recursionLimitExceeded
  | fuel + 1 => do
    skipValue fuel
    match ← skipBlank with
    | none => failAhead .eofWhileParsingList
    | some c =>
      if c = byte ',' then eat; skipItems fuel
      else if c = byte ']' then eat
      else failAhead .expectedListCommaOrEnd

/-- Skips object members up to the closing brace. -/
def skipMembers : Nat → Reader Unit
  | 0 => failAhead .recursionLimitExceeded
  | fuel + 1 => do
    match ← skipBlank with
    | none => failAhead .eofWhileParsingObject
    | some c =>
      if c = byte '"' then eat else failAhead .keyMustBeAString
    skipString
    match ← skipBlank with
    | none => failAhead .eofWhileParsingObject
    | some c => if c = byte ':' then eat else failAhead .expectedColon
    skipValue fuel
    match ← skipBlank with
    | none => failAhead .eofWhileParsingObject
    | some c =>
      if c = byte ',' then eat; skipMembers fuel
      else if c = byte '}' then eat
      else failAhead .expectedObjectCommaOrEnd

end

/-- Skips one value; the fuel is the length of the rest of the input. -/
def skip : Reader Unit := do
  skipValue (2 * (← get).rest.length + 2)

end Json

end Warden
