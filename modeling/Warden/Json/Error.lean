import Warden.Number.Shortest
import Warden.Text.Quoted

/-!
# Decoding errors

What goes wrong when a document is read into a typed value. A *syntax* error is found by the
reader at a place in the text; a *problem* is found by the typed layer (a value of the wrong
kind, a missing or repeated field, an unknown name) and gets its place from the reader when it
passes back through it. A place is a line counted from one and a column counted in bytes from
the start of the line; an error without a place has line zero.

The wording of problems is shared by the two document syntaxes this library reads. They
differ only in how a null and a float are named, which the `Dialect` record fixes.
-/

namespace Warden

/-- A syntax error of the JSON reader. -/
inductive SyntaxCode where
  | eofWhileParsingList
  | eofWhileParsingObject
  | eofWhileParsingString
  | eofWhileParsingValue
  | expectedColon
  | expectedListCommaOrEnd
  | expectedObjectCommaOrEnd
  | expectedIdent
  | expectedValue
  | invalidEscape
  | invalidNumber
  | numberOutOfRange
  | invalidUnicodeCodePoint
  | controlCharacterInString
  | keyMustBeAString
  | loneLeadingSurrogate
  | trailingComma
  | trailingCharacters
  | unexpectedEndOfHexEscape
  | recursionLimitExceeded
  deriving DecidableEq, Repr

namespace SyntaxCode

/-- The message of a syntax error. -/
def message : SyntaxCode → String
  | eofWhileParsingList => "EOF while parsing a list"
  | eofWhileParsingObject => "EOF while parsing an object"
  | eofWhileParsingString => "EOF while parsing a string"
  | eofWhileParsingValue => "EOF while parsing a value"
  | expectedColon => "expected `:`"
  | expectedListCommaOrEnd => "expected `,` or `]`"
  | expectedObjectCommaOrEnd => "expected `,` or `\x7d`"
  | expectedIdent => "expected ident"
  | expectedValue => "expected value"
  | invalidEscape => "invalid escape"
  | invalidNumber => "invalid number"
  | numberOutOfRange => "number out of range"
  | invalidUnicodeCodePoint => "invalid unicode code point"
  | controlCharacterInString => "control character (\\u0000-\\u001F) found while parsing a string"
  | keyMustBeAString => "key must be a string"
  | loneLeadingSurrogate => "lone leading surrogate in hex escape"
  | trailingComma => "trailing comma"
  | trailingCharacters => "trailing characters"
  | unexpectedEndOfHexEscape => "unexpected end of hex escape"
  | recursionLimitExceeded => "recursion limit exceeded"

end SyntaxCode

/-- What a value that did not fit turned out to be. -/
inductive Unexpected where
  | bool (b : Bool)
  | unsigned (n : Nat)
  | signed (n : Int)
  | float (v : Binary64)
  | str (s : String)
  | unit
  | seq
  | map
  deriving Repr

/-- How a syntax names a null and writes a float inside a problem message. -/
structure Dialect where
  unitName : String
  floatText : Binary64 → String

/-- Strict JSON: a null is `null`, a float is written in its compact data form. -/
def Dialect.json : Dialect := ⟨"null", Binary64.compactText⟩

/-- The relaxed configuration syntax: a null is a `unit value`, a float is written in full
positional form with a point. -/
def Dialect.relaxed : Dialect := ⟨"unit value", Binary64.textWithPoint⟩

namespace Unexpected

/-- The description of an unexpected value. -/
def describe (d : Dialect) : Unexpected → String
  | bool b => "boolean `" ++ (if b then "true" else "false") ++ "`"
  | unsigned n => "integer `" ++ toString n ++ "`"
  | signed n => "integer `" ++ toString n ++ "`"
  | float v => "floating point `" ++ d.floatText v ++ "`"
  | str s => "string " ++ Text.quoted s
  | unit => d.unitName
  | seq => "sequence"
  | map => "map"

end Unexpected

/-- A problem of the typed layer. -/
inductive Problem where
  | invalidType (found : Unexpected) (expected : String)
  | invalidValue (found : Unexpected) (expected : String)
  | invalidLength (length : Nat) (expected : String)
  | unknownVariant (name : String) (variants : List String)
  | missingField (name : String)
  | duplicateField (name : String)
  | custom (message : String)
  /-- The reader itself broke down, as when a text is cut inside a character. This is no
  answer about the value: whoever reads stops altogether. -/
  | fault (message : String)
  deriving Repr

namespace Problem

/-- Names in backquotes: one, two joined by `or`, or `one of` a list. -/
def oneOf (names : List String) : String :=
  let q (s : String) := "`" ++ s ++ "`"
  match names with
  | [] => "nothing"
  | [a] => q a
  | [a, b] => q a ++ " or " ++ q b
  | _ => "one of " ++ ", ".intercalate (names.map q)

/-- The message of a problem. -/
def message (d : Dialect) : Problem → String
  | invalidType u e => "invalid type: " ++ u.describe d ++ ", expected " ++ e
  | invalidValue u e => "invalid value: " ++ u.describe d ++ ", expected " ++ e
  | invalidLength n e => "invalid length " ++ toString n ++ ", expected " ++ e
  | unknownVariant n [] => "unknown variant `" ++ n ++ "`, there are no variants"
  | unknownVariant n vs => "unknown variant `" ++ n ++ "`, expected " ++ oneOf vs
  | missingField n => "missing field `" ++ n ++ "`"
  | duplicateField n => "duplicate field `" ++ n ++ "`"
  | custom m => m
  | fault m => m

end Problem

/-- The cause of a JSON decoding error. -/
inductive JsonCause where
  | malformed (code : SyntaxCode)
  | problem (p : Problem)
  deriving Repr

/-- A JSON decoding error and its place (line zero: no place). -/
structure JsonError where
  cause : JsonCause
  line : Nat
  column : Nat
  deriving Repr

namespace JsonError

/-- The message of an error, with its place when it has one. -/
def message (e : JsonError) : String :=
  let base := match e.cause with
    | .malformed c => c.message
    | .problem p => p.message .json
  if e.line = 0 then base
  else base ++ " at line " ++ toString e.line ++ " column " ++ toString e.column

/-- A problem without a place. -/
def ofProblem (p : Problem) : JsonError := ⟨.problem p, 0, 0⟩

end JsonError

end Warden
