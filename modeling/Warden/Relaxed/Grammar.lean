import Warden.Text.NameData

/-!
# The relaxed configuration syntax

The configuration file is written in JSON5: JSON with comments, trailing commas, unquoted keys,
single-quoted strings, hexadecimal and signed numbers, `Infinity` and `NaN`. This module reads
it by a parsing expression grammar into a tree of named nodes, and reports a failure the way
the grammar engine that defines the format does.

## How a failure is reported

The grammar is ordered choice with backtracking, so a failure says little by itself. The
reader keeps the furthest position at which a *named* rule failed and the rules that failed
there; the report lists those rules. Three details decide which rules are listed:

* only named rules count (`array`, `boolean`, `identifier`, `null`, `number`, `object`,
  `string`, the escapes and `char_literal`, and the end of input); helper rules and literal
  text do not;
* when a rule fails at a later position than every earlier failure, the earlier ones are
  forgotten;
* when a rule fails at the position where exactly one rule failed inside it, it is not listed
  itself: the inner rule is the more precise report.

Blanks and comments may stand between the parts of arrays, objects and members, but not inside
strings, names and numbers.
-/

namespace Warden

namespace Relaxed

/-- The named rules of the grammar, in the order in which reports list them. -/
inductive Rule where
  | eoi
  | array
  | boolean
  | charEscape
  | charLiteral
  | hexEscape
  | identifier
  | nulEscape
  | null
  | number
  | object
  | string
  | unicodeEscape
  deriving DecidableEq, Repr

namespace Rule

/-- Position of a rule in the order of reports. -/
def rank : Rule → Nat
  | eoi => 0
  | array => 1
  | boolean => 2
  | charEscape => 3
  | charLiteral => 4
  | hexEscape => 5
  | identifier => 6
  | nulEscape => 7
  | null => 8
  | number => 9
  | object => 10
  | string => 11
  | unicodeEscape => 12

/-- The name of a rule in reports. -/
def name : Rule → String
  | eoi => "EOI"
  | array => "array"
  | boolean => "boolean"
  | charEscape => "char_escape_sequence"
  | charLiteral => "char_literal"
  | hexEscape => "hex_escape_sequence"
  | identifier => "identifier"
  | nulEscape => "nul_escape_sequence"
  | null => "null"
  | number => "number"
  | object => "object"
  | string => "string"
  | unicodeEscape => "unicode_escape_sequence"

end Rule

/-- A node of the parse tree: the rule, the span of characters it matched, and the named
nodes inside it. -/
inductive Node where
  | mk (rule : Rule) (start stop : Nat) (children : List Node)

instance : Inhabited Node := ⟨.mk .null 0 0 []⟩

namespace Node

/-- The rule of a node. -/
def rule : Node → Rule
  | mk r _ _ _ => r

/-- The first position of a node. -/
def start : Node → Nat
  | mk _ s _ _ => s

/-- The position after a node. -/
def stop : Node → Nat
  | mk _ _ e _ => e

/-- The nodes inside a node. -/
def children : Node → List Node
  | mk _ _ _ cs => cs

end Node

/-- The state of a parse: the position, and the furthest failure of named rules with the rules
that failed there, in the order they failed. -/
structure Scan where
  pos : Nat
  attemptPos : Nat
  attempts : List Rule

/-- A parser over the characters of a text. Failure keeps the scan, so that failed attempts
are remembered. -/
abbrev Parse := ReaderT (Array Char) (ExceptT Unit (StateM Scan))

/-- A parser that yields nodes. -/
abbrev Nodes := Parse (List Node)

/-! ## Primitives -/

/-- Fails. -/
def miss {α : Type} : Parse α := throw ()

/-- The character at the position, if any. -/
def current : Parse (Option Char) := do return (← read)[(← get).pos]?

/-- Moves the position. -/
def moveTo (p : Nat) : Parse Unit := modify fun s => { s with pos := p }

/-- Runs a parser; on failure the position is put back where it was. -/
def undoable {α : Type} (p : Parse α) : Parse α := do
  let start := (← get).pos
  tryCatch p fun _ => do
    moveTo start
    miss

/-- The first parser that succeeds. -/
def first {α : Type} (p q : Parse α) : Parse α := tryCatch p fun _ => q

/-- Whether a parser succeeds, keeping its effect when it does. -/
def succeeds {α : Type} (p : Parse α) : Parse (Option α) :=
  tryCatch (some <$> p) fun _ => pure none

/-- Matches one character with a property. -/
def charWith (ok : Char → Bool) : Parse Unit := do
  match ← current with
  | some c => if ok c then moveTo ((← get).pos + 1) else miss
  | none => miss

/-- Matches any one character. -/
def anyChar : Parse Unit := charWith fun _ => true

/-- Whether the characters at a position spell a text, with letter case ignored or not. -/
def spells (input : Array Char) (at_ : Nat) (cs : List Char) (fold : Bool) : Bool :=
  (cs.zipIdx).all fun (c, i) =>
    match input[at_ + i]? with
    | some d => if fold then d.toLower == c.toLower else d == c
    | none => false

/-- Matches a text. -/
def lit (t : String) : Parse Unit := do
  let p := (← get).pos
  if spells (← read) p t.toList false then moveTo (p + t.length) else miss

/-- Matches a text, with ASCII letter case ignored. -/
def litFolded (t : String) : Parse Unit := do
  let p := (← get).pos
  if spells (← read) p t.toList true then moveTo (p + t.length) else miss

/-- Succeeds when a parser would, without moving. -/
def ahead {α : Type} (p : Parse α) : Parse Unit := do
  let start := (← get).pos
  let r ← succeeds p
  moveTo start
  if r.isNone then miss

/-- Succeeds when a parser would fail, without moving. -/
def notAhead {α : Type} (p : Parse α) : Parse Unit := do
  let start := (← get).pos
  let r ← succeeds p
  moveTo start
  if r.isSome then miss

/-- Runs a parser as often as it succeeds and moves, collecting its nodes. -/
def repeatFrom (p : Nodes) : Nat → List Node → Nodes
  | 0, acc => pure acc
  | fuel + 1, acc => do
    let before := (← get).pos
    match ← succeeds p with
    | some xs => if (← get).pos = before then pure (acc ++ xs) else repeatFrom p fuel (acc ++ xs)
    | none => pure acc

/-- Zero or more times. -/
def many (p : Nodes) : Nodes := do repeatFrom p ((← read).size - (← get).pos + 1) []

/-- Zero or more times, with no nodes. -/
def manyChars (p : Parse Unit) : Parse Unit := do
  let _ ← many (p *> pure [])
  pure ()

/-- One or more times, with no nodes. -/
def someChars (p : Parse Unit) : Parse Unit := undoable (p *> manyChars p)

/-- Optionally. -/
def optional (p : Nodes) : Nodes := first p (pure [])

/-- Notes the failure of a named rule that started at `pos`. -/
def Scan.track (s : Scan) (r : Rule) (pos index before : Nat) : Scan :=
  let now := if pos = s.attemptPos then s.attempts.length else 0
  if now > before ∧ now - before = 1 then s
  else
    let s := if pos = s.attemptPos then { s with attempts := s.attempts.take index } else s
    let s := if pos > s.attemptPos then { s with attempts := [], attemptPos := pos } else s
    if pos = s.attemptPos then { s with attempts := s.attempts ++ [r] } else s

/-- A named rule: on success a node with the inner nodes (or none, for a rule read as a
whole), on failure a noted attempt. -/
def named (r : Rule) (keep : Bool) (body : Nodes) : Nodes := do
  let s ← get
  let start := s.pos
  let before := if start = s.attemptPos then s.attempts.length else 0
  tryCatch
    (do
      let inner ← body
      return [Node.mk r start (← get).pos (if keep then inner else [])])
    (fun _ => do
      modify fun s => s.track r start before before
      miss)

/-! ## Characters -/

/-- The line terminators. -/
def isLineTerminator (c : Char) : Bool :=
  c = '\n' || c = '\r' || c.toNat = 0x2028 || c.toNat = 0x2029

/-- The blanks between tokens. -/
def isBlankChar (c : Char) : Bool :=
  c.toNat = 0x09 || c.toNat = 0x0B || c.toNat = 0x0C || c = ' ' || c.toNat = 0xA0 ||
    c.toNat = 0xFEFF || Text.spaceSeparatorTable.contains c.toNat || isLineTerminator c

/-- Letters that may start a name. -/
def isNameLetter (c : Char) : Bool := Text.letterTable.contains c.toNat

/-- Characters that may continue a name besides its starting ones. -/
def isNameMark (c : Char) : Bool :=
  Text.nonspacingMarkTable.contains c.toNat || Text.diacriticTable.contains c.toNat ||
    Text.decimalDigitTable.contains c.toNat || Text.connectorTable.contains c.toNat ||
    c.toNat = 0x200C || c.toNat = 0x200D

/-- An ASCII digit. -/
def isDigit (c : Char) : Bool := '0' ≤ c && c ≤ '9'

/-- An ASCII hexadecimal digit. -/
def isHexDigit (c : Char) : Bool := isDigit c || ('a' ≤ c && c ≤ 'f') || ('A' ≤ c && c ≤ 'F')

/-- A line terminator. -/
def lineTerminator : Parse Unit := charWith isLineTerminator

/-- A comment, in either form. -/
def comment : Parse Unit :=
  first (undoable (lit "/*" *> manyChars (notAhead (lit "*/") *> anyChar) *> lit "*/"))
    (undoable (lit "//" *> manyChars (notAhead lineTerminator *> anyChar)))

/-- Blanks and comments between tokens. -/
def gap : Parse Unit :=
  undoable do
    manyChars (charWith isBlankChar)
    manyChars (undoable (comment *> manyChars (charWith isBlankChar)))

/-! ## Strings and names -/

/-- One character of a string or a name: anything but a backslash or a line break. -/
def charLiteral : Nodes :=
  named .charLiteral false (undoable (notAhead (first (lit "\\") lineTerminator) *> anyChar) *> pure [])

/-- The escapes that stand for one character. -/
def singleEscape : Parse Unit := charWith fun c => "'\"\\bfnrtv".toList.contains c

/-- A character escaped as itself or as a control character. -/
def charEscape : Nodes :=
  named .charEscape false
    (first singleEscape
      (undoable (notAhead (first singleEscape (first (charWith isDigit) (first (lit "x") (lit "u"))) <|>
        lineTerminator) *> anyChar)) *> pure [])

/-- The escape of the NUL character. -/
def nulEscape : Nodes := named .nulEscape false (lit "0" *> pure [])

/-- Hexadecimal digits, exactly so many. -/
def hexDigits : Nat → Parse Unit
  | 0 => pure ()
  | n + 1 => charWith isHexDigit *> hexDigits n

/-- The two digits of a `\x` escape. -/
def hexEscape : Nodes := named .hexEscape false (undoable (hexDigits 2) *> pure [])

/-- The four digits of a `\u` escape. -/
def unicodeEscape : Nodes := named .unicodeEscape false (undoable (hexDigits 4) *> pure [])

/-- What follows a backslash in a string. -/
def escapeSequence : Nodes :=
  first charEscape (first nulEscape (first (undoable (lit "x" *> hexEscape)) (undoable (lit "u" *> unicodeEscape))))

/-- A backslash and a line break, which stand for nothing. -/
def lineContinuation : Parse Unit :=
  undoable (lit "\\" *> first (undoable (lit "\r" *> lit "\n")) lineTerminator)

/-- One character of a string quoted by `q`. -/
def quotedChar (q : String) : Nodes :=
  first (undoable (lit "\\" *> escapeSequence))
    (first (lineContinuation *> pure []) (undoable (notAhead (lit q) *> charLiteral)))

/-- A string in double or single quotes. -/
def string : Nodes :=
  named .string true
    (first (undoable (lit "\"" *> many (quotedChar "\"") <* lit "\""))
      (undoable (lit "'" *> many (quotedChar "'") <* lit "'")))

/-- The start of a name: a letter, `$` or `_`, or a `\u` escape. -/
def nameStart : Nodes :=
  first (undoable (ahead (first (charWith isNameLetter) (first (lit "$") (lit "_"))) *> charLiteral))
    (undoable (lit "\\u" *> unicodeEscape))

/-- A later character of a name. -/
def namePart : Nodes := first nameStart (undoable (ahead (charWith isNameMark) *> charLiteral))

/-- An unquoted name. -/
def identifier : Nodes :=
  named .identifier true (undoable do
    let a ← nameStart
    let b ← many namePart
    pure (a ++ b))

/-! ## Scalars -/

/-- `null`. -/
def nullValue : Nodes := named .null false (lit "null" *> pure [])

/-- `true` or `false`. -/
def boolean : Nodes := named .boolean false (first (lit "true") (lit "false") *> pure [])

/-- An exponent: `e` or `E`, an optional sign, digits. -/
def exponentPart : Parse Unit :=
  undoable (litFolded "e" *> (first (first (lit "+") (lit "-")) (pure ())) *> someChars (charWith isDigit))

/-- The integer part of a decimal number: `0`, or digits not starting with `0`. -/
def decimalInteger : Parse Unit :=
  first (lit "0") (undoable (charWith (fun c => '1' ≤ c && c ≤ '9') *> manyChars (charWith isDigit)))

/-- An optional exponent. -/
def maybeExponent : Parse Unit := first exponentPart (pure ())

/-- A decimal number, with or without a point and an exponent. -/
def decimalLiteral : Parse Unit :=
  first (undoable (decimalInteger *> lit "." *> manyChars (charWith isDigit) *> maybeExponent))
    (first (undoable (lit "." *> someChars (charWith isDigit) *> maybeExponent))
      (undoable (decimalInteger *> maybeExponent)))

/-- A number: an optional sign, then hexadecimal, decimal, `Infinity` or `NaN`. -/
def number : Nodes :=
  named .number false
    (undoable (first (first (lit "+") (lit "-")) (pure ()) *>
      first (undoable (litFolded "0x" *> someChars (charWith isHexDigit)))
        (first decimalLiteral (first (lit "Infinity") (lit "NaN")))) *> pure [])

/-! ## Values -/

/-- Items after the first one, each after a comma, with gaps between. -/
def moreItems (item : Nodes) : Nodes :=
  optional (undoable do
    let a ← undoable (lit "," *> gap *> item)
    let b ← many (undoable (gap *> undoable (lit "," *> gap *> item)))
    pure (a ++ b))

/-- The end of a list: an optional comma and the closing bracket. -/
def listEnd (close : String) : Parse Unit := do
  gap
  let _ ← optional (lit "," *> pure [])
  gap
  lit close

mutual

/-- A value: null, a boolean, a string, a number, an object or an array. -/
def value : Nat → Nodes
  | 0 => miss
  | fuel + 1 =>
    first nullValue (first boolean (first string (first number (first (object fuel) (array fuel)))))

/-- An object: members `key: value` between braces. -/
def object : Nat → Nodes
  | 0 => miss
  | fuel + 1 =>
    named .object true (undoable do
      lit "\x7b"
      gap
      first (lit "\x7d" *> pure []) (undoable do
        let k ← first identifier string
        gap
        lit ":"
        gap
        let v ← value fuel
        gap
        let rest ← moreItems (undoable do
          let k ← first identifier string
          gap
          lit ":"
          gap
          let v ← value fuel
          pure (k ++ v))
        listEnd "\x7d"
        pure (k ++ v ++ rest)))

/-- An array: values between brackets. -/
def array : Nat → Nodes
  | 0 => miss
  | fuel + 1 =>
    named .array true (undoable do
      lit "["
      gap
      first (lit "]" *> pure []) (undoable do
        let v ← value fuel
        gap
        let rest ← moreItems (value fuel)
        listEnd "]"
        pure (v ++ rest)))

end

/-- The end of the input. -/
def endOfInput : Nodes := named .eoi false (do
  if (← get).pos = (← read).size then pure [] else miss)

/-- A whole document: one value between gaps. -/
def document : Nodes := do
  gap
  let v ← value (2 * (← read).size + 2)
  gap
  let e ← endOfInput
  pure (v ++ e)

/-- Why a text is not a document: the furthest position at which named rules failed, and
those rules, sorted and each once. -/
structure SyntaxError where
  pos : Nat
  expected : List Rule

/-- Sorts rules by report order, each once. -/
def sortRules (rs : List Rule) : List Rule :=
  (List.range 13).filterMap fun k => rs.find? (·.rank = k)

/-- Parses a document into the node of its value. -/
def parse (input : Array Char) : Except SyntaxError Node :=
  match (document.run input).run.run ⟨0, 0, []⟩ with
  | (.ok (n :: _), _) => .ok n
  | (.ok [], s) => .error ⟨s.attemptPos, sortRules s.attempts⟩
  | (.error _, s) => .error ⟨s.attemptPos, sortRules s.attempts⟩

end Relaxed

end Warden
