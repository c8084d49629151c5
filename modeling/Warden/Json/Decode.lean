import Warden.Json.Reader
import Warden.Time.Timestamp

/-!
# Typed JSON decoding

Decoders for the shapes a record is made of: text, integers, booleans, optional values,
sequences, enumerations of names, records, and values of any shape. Every decoder follows the
same steps: skip blanks, fail at the end of the input, look at the next byte, and read. A value
of the wrong kind is still read as far as a scalar goes, so that the message can name it
(`invalid type: integer \`5\`, expected a string`), while a container of the wrong kind is not
entered.

A record is read either from an object, with its fields by name in any order, or from an
array, with its fields by position. By name, a repeated field fails at once, an unknown one is
skipped, and after the closing brace the first missing field in declaration order fails unless
it has a default or is optional. By position, a missing element takes its field's default, and
any other missing field fails with the expected length.

Containers nest at most 127 deep. A container is always closed after its contents were read,
even when they failed, and the contents' error is the one reported.
-/

namespace Warden

namespace Json

/-! ## The common shape of a read -/

/-- Reads a value whose first byte decides how: blanks are skipped first, the end of the
input fails, and any unplaced error gets the place where reading stopped. -/
def typed {α : Type} (body : UInt8 → Reader α) : Reader α :=
  placed do
    match ← skipBlank with
    | none => failAhead .eofWhileParsingValue
    | some b => body b

/-- Reads a value of the wrong kind and fails naming it: scalars are read whole, containers
are named without being entered, anything else is not a value. -/
def wrongKind {α : Type} (expected : String) : Reader α := do
  let found ← do
    match ← peek with
    | none => failAhead .expectedValue
    | some b =>
      if b = byte 'n' then eat; keyword (String.toUTF8 "ull").toList; pure Unexpected.unit
      else if b = byte 't' then eat; keyword (String.toUTF8 "rue").toList; pure (Unexpected.bool true)
      else if b = byte 'f' then eat; keyword (String.toUTF8 "alse").toList; pure (Unexpected.bool false)
      else if b = byte '-' then eat; Number.unexpected <$> number false
      else if isDigitByte b then Number.unexpected <$> number true
      else if b = byte '"' then eat; Unexpected.str <$> string
      else if b = byte '[' then pure Unexpected.seq
      else if b = byte '{' then pure Unexpected.map
      else failAhead .expectedValue
  fail (.invalidType found expected)

/-- Enters a container whose opening bracket is next, reads its contents, and closes it. The
nesting limit is checked first; the contents' error wins over the closing one. -/
def enter {α : Type} (contents : Reader α) (close : Reader Unit) : Reader α := do
  let d := (← get).depth - 1
  modify fun c => { c with depth := d }
  if d = 0 then failAhead .recursionLimitExceeded
  eat
  let r ← attempt contents
  modify fun c => { c with depth := c.depth + 1 }
  let c ← attempt close
  match r, c with
  | .error e, _ => throw e
  | .ok _, .error e => throw e
  | .ok v, .ok _ => pure v

/-! ## Arrays -/

/-- Whether another element follows in an array. -/
def nextItem (first : Bool) : Reader Bool := do
  match ← skipBlank with
  | none => failAhead .eofWhileParsingList
  | some b =>
    if b = byte ']' then pure false
    else if first then pure true
    else if b = byte ',' then
      eat
      match ← skipBlank with
      | some c => if c = byte ']' then failAhead .trailingComma else pure true
      | none => failAhead .eofWhileParsingValue
    else failAhead .expectedListCommaOrEnd

/-- Closes an array after its last wanted element. -/
def closeList : Reader Unit := do
  match ← skipBlank with
  | some b =>
    if b = byte ']' then eat
    else if b = byte ',' then
      eat
      match ← skipBlank with
      | some c => if c = byte ']' then failAhead .trailingComma else failAhead .trailingCharacters
      | none => failAhead .trailingCharacters
    else failAhead .trailingCharacters
  | none => failAhead .eofWhileParsingList

/-- Reads the elements of an array; each element takes at least one byte. -/
def items {α : Type} (elem : Reader α) : Nat → Bool → List α → Reader (List α)
  | 0, _, acc => pure acc.reverse
  | fuel + 1, first, acc => do
    if ← nextItem first then
      let v ← elem
      items elem fuel false (v :: acc)
    else pure acc.reverse

/-- The fuel for a loop that takes at least one byte a round. -/
def roundsLeft : Reader Nat := do return (← get).rest.length + 1

/-! ## Objects -/

/-- Whether another member follows in an object; when it does, its key's quote is next. -/
def nextKey (first : Bool) : Reader Bool := do
  match ← skipBlank with
  | none => failAhead .eofWhileParsingObject
  | some b =>
    if b = byte '}' then pure false
    else if first then
      if b = byte '"' then pure true else failAhead .keyMustBeAString
    else if b = byte ',' then
      eat
      match ← skipBlank with
      | some c =>
        if c = byte '"' then pure true
        else if c = byte '}' then failAhead .trailingComma
        else failAhead .keyMustBeAString
      | none => failAhead .eofWhileParsingValue
    else failAhead .expectedObjectCommaOrEnd

/-- Reads a key whose quote is next. -/
def key : Reader String := do
  eat
  string

/-- Reads the colon after a key. -/
def colon : Reader Unit := do
  match ← skipBlank with
  | some b => if b = byte ':' then eat else failAhead .expectedColon
  | none => failAhead .eofWhileParsingObject

/-- Closes an object after its last member was read. -/
def closeObject : Reader Unit := do
  match ← skipBlank with
  | some b =>
    if b = byte '}' then eat
    else if b = byte ',' then failAhead .trailingComma
    else failAhead .trailingCharacters
  | none => failAhead .eofWhileParsingObject

/-- Reads the members of an object, handing each key to `entry`, which reads the colon and the
value. -/
def members {σ : Type} (entry : String → σ → Reader σ) : Nat → Bool → σ → Reader σ
  | 0, _, st => pure st
  | fuel + 1, first, st => do
    if ← nextKey first then
      let k ← key
      let st ← entry k st
      members entry fuel false st
    else pure st

/-! ## Scalars -/

/-- Reads text. -/
def readStringAs (expected : String) : Reader String :=
  typed fun b => if b = byte '"' then do eat; string else wrongKind expected

/-- Reads text, where a string is expected. -/
def readString : Reader String := readStringAs "a string"

/-- Reads a boolean. -/
def readBool : Reader Bool :=
  typed fun b =>
    if b = byte 't' then do eat; keyword (String.toUTF8 "rue").toList; pure true
    else if b = byte 'f' then do eat; keyword (String.toUTF8 "alse").toList; pure false
    else wrongKind "a boolean"

/-- Reads a number of any kind, for an integer field. -/
def readNumberAs {α : Type} (expected : String) (accept : Number → Except Problem α) : Reader α :=
  typed fun b => do
    let n ← if b = byte '-' then do eat; number false
      else if isDigitByte b then number true
      else wrongKind expected
    match accept n with
    | .ok v => pure v
    | .error p => fail p

/-- Reads a signed 64-bit integer. -/
def readI64 : Reader Int :=
  readNumberAs "i64" fun
    | .unsigned n => if n ≤ 9223372036854775807 then .ok n else .error (.invalidValue (.unsigned n) "i64")
    | .negative n => .ok n
    | .float v => .error (.invalidType (.float v) "i64")

/-- Reads an unsigned 64-bit integer, under the name of its type. -/
def readUnsignedAs (name : String) : Reader Nat :=
  readNumberAs name fun
    | .unsigned n => .ok n
    | .negative n => .error (.invalidValue (.signed n) name)
    | .float v => .error (.invalidType (.float v) name)

/-- Reads `null`. -/
def readUnit : Reader Unit :=
  typed fun b => if b = byte 'n' then do eat; keyword (String.toUTF8 "ull").toList else wrongKind "unit"

/-- Reads an optional value: `null` is none. -/
def readOption {α : Type} (r : Reader α) : Reader (Option α) := do
  match ← skipBlank with
  | some b =>
    if b = byte 'n' then
      eat
      keyword (String.toUTF8 "ull").toList
      pure none
    else some <$> r
  | none => some <$> r

/-- Reads an array of values. -/
def readList {α : Type} (elem : Reader α) : Reader (List α) :=
  typed fun b =>
    if b = byte '[' then do enter (items elem (← roundsLeft) true []) closeList
    else wrongKind "a sequence"

/-- Reads an RFC 3339 timestamp. -/
def readTimestamp : Reader Timestamp :=
  typed fun b =>
    if b = byte '"' then do
      eat
      let s ← string
      match Timestamp.ofRfc3339 s with
      | .ok t => pure t
      | .error e => fail (.custom e.message)
    else wrongKind "an RFC 3339 formatted date and time string"

/-! ## Enumerations of names -/

/-- The position of a name in a list. -/
def indexOfName (names : List String) (s : String) : Option Nat :=
  names.findIdx? (· == s)

/-- Reads the name of a variant. -/
def variantName (names : List String) : Reader Nat :=
  typed fun b =>
    if b = byte '"' then do
      eat
      let s ← string
      match indexOfName names s with
      | some i => pure i
      | none => fail (.unknownVariant s names)
    else wrongKind "variant identifier"

/-- Reads one of a list of names, given as a string or as a one-member object
`{"name": null}`; returns its position. -/
def readVariant (names : List String) : Reader Nat := do
  match ← skipBlank with
  | none => failAhead .eofWhileParsingValue
  | some b =>
    if b = byte '"' then variantName names
    else if b = byte '{' then
      let d := (← get).depth - 1
      modify fun c => { c with depth := d }
      if d = 0 then failAhead .recursionLimitExceeded
      eat
      let r ← attempt do
        let i ← variantName names
        colon
        readUnit
        pure i
      modify fun c => { c with depth := c.depth + 1 }
      let i ← match r with
        | .ok i => pure i
        | .error e => throw e
      match ← skipBlank with
      | some c => if c = byte '}' then do eat; pure i else failHere .expectedValue
      | none => failHere .eofWhileParsingObject
    else failAhead .expectedValue

/-! ## Records -/

/-- What a record does when a field is missing. -/
inductive Absent where
  /-- The field must be given. -/
  | required
  /-- The field takes its default, by name and by position. -/
  | defaulted
  /-- The field is empty when missing by name, but required by position. -/
  | optional
  deriving DecidableEq

/-- One field of a record being built in `σ`: its name, what its absence means, and how its
value is read into the record. -/
structure Field (σ : Type) where
  name : String
  absent : Absent
  read : σ → Reader σ

/-- A record: its name, its fields in declaration order, and its value before any field is
read (holding the defaults). -/
structure Shape (σ : Type) where
  name : String
  fields : List (Field σ)
  init : σ

namespace Shape

variable {σ : Type}

/-- What a decoder of the record says it expects. -/
def expected (s : Shape σ) : String := "struct " ++ s.name

/-- What a decoder of the record by position says it expects. -/
def expectedLength (s : Shape σ) : String :=
  let n := s.fields.length
  s.expected ++ " with " ++ toString n ++ (if n = 1 then " element" else " elements")

/-- The field with a name. -/
def find? (s : Shape σ) (name : String) : Option (Field σ) :=
  s.fields.find? (·.name == name)

/-- Reads one member of the record's object. -/
def entry (s : Shape σ) (k : String) (st : σ × List String) : Reader (σ × List String) := do
  match s.find? k with
  | some f =>
    if st.2.contains k then fail (.duplicateField k)
    else
      colon
      let v ← f.read st.1
      pure (v, k :: st.2)
  | none =>
    colon
    skip
    pure st

/-- The first field, in declaration order, that is required and was not given. -/
def firstMissing (s : Shape σ) (seen : List String) : Option String :=
  (s.fields.find? fun f => f.absent = .required && !seen.contains f.name).map (·.name)

/-- Reads the members of the record's object, after its brace. -/
def byName (s : Shape σ) : Reader σ := do
  let (v, seen) ← members s.entry (← roundsLeft) true (s.init, [])
  match s.firstMissing seen with
  | some n => fail (.missingField n)
  | none => pure v

/-- Reads fields by position; once the elements run out, the rest take their defaults, or the
first field without one fails. -/
def byPosition (s : Shape σ) : List (Field σ) → Nat → σ → Reader σ
  | [], _, st => pure st
  | f :: fs, i, st => do
    if ← nextItem (i = 0) then
      let v ← f.read st
      byPosition s fs (i + 1) v
    else
      match ((f :: fs).zip (List.range' i (fs.length + 1))).find? (·.1.absent ≠ .defaulted) with
      | some (_, j) => fail (.invalidLength j s.expectedLength)
      | none => pure st

/-- Reads the record from an object or an array. -/
def read (s : Shape σ) : Reader σ :=
  typed fun b =>
    if b = byte '{' then enter s.byName closeObject
    else if b = byte '[' then enter (s.byPosition s.fields 0 s.init) closeList
    else wrongKind s.expected

end Shape

/-! ## Values of any shape -/

/-- A number as a JSON value. -/
def Number.toJson : Number → Json
  | .unsigned n => .int n
  | .negative n => .int n
  | .float v => .float v

mutual

/-- Reads a value of any shape. -/
def anyValue : Nat → Reader Json
  | 0 => failAhead .recursionLimitExceeded
  | fuel + 1 =>
    typed fun b =>
      if b = byte 'n' then do eat; keyword (String.toUTF8 "ull").toList; pure .null
      else if b = byte 't' then do eat; keyword (String.toUTF8 "rue").toList; pure (.bool true)
      else if b = byte 'f' then do eat; keyword (String.toUTF8 "alse").toList; pure (.bool false)
      else if b = byte '-' then do eat; Number.toJson <$> number false
      else if isDigitByte b then Number.toJson <$> number true
      else if b = byte '"' then do eat; Json.str <$> string
      else if b = byte '[' then do Json.arr <$> enter (anyItems fuel true []) closeList
      else if b = byte '{' then do Json.obj <$> enter (anyMembers fuel true []) closeObject
      else failAhead .expectedValue

/-- Reads the elements of an array of values. -/
def anyItems : Nat → Bool → List Json → Reader (List Json)
  | 0, _, acc => pure acc.reverse
  | fuel + 1, first, acc => do
    if ← nextItem first then
      let v ← anyValue fuel
      anyItems fuel false (v :: acc)
    else pure acc.reverse

/-- Reads the members of an object of values. -/
def anyMembers : Nat → Bool → List (String × Json) → Reader (List (String × Json))
  | 0, _, acc => pure acc.reverse
  | fuel + 1, first, acc => do
    if ← nextKey first then
      let k ← key
      colon
      let v ← anyValue fuel
      anyMembers fuel false ((k, v) :: acc)
    else pure acc.reverse

end

/-- Reads a value of any shape. -/
def readAny : Reader Json := do anyValue (2 * (← get).rest.length + 2)

/-- Reads an object of values, as a list of members in document order. -/
def readObject : Reader (List (String × Json)) :=
  typed fun b =>
    if b = byte '{' then do
      let fuel := 2 * (← get).rest.length + 2
      enter (anyMembers fuel true []) closeObject
    else wrongKind "a map"

/-! ## Whole documents -/

/-- Reads a whole document: the value, then nothing but blanks. -/
def readDocument {α : Type} (r : Reader α) (bytes : List UInt8) : Except JsonError α :=
  let whole : Reader α := do
    let v ← r
    match ← skipBlank with
    | some _ => failAhead .trailingCharacters
    | none => pure v
  (whole.run.run (Cursor.start bytes)).1

/-- Reads a whole document from text. -/
def readText {α : Type} (r : Reader α) (s : String) : Except JsonError α :=
  readDocument r (String.toUTF8 s).toList

end Json

end Warden
