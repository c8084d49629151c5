import Warden.Number.Shortest

/-!
# JSON values and their text

A JSON document as a tree, and its two written forms: the compact form with no blanks, and
the pretty form with two-space indentation, one member per line and `": "` after each key.
Text is escaped with the short escapes `\"`, `\\`, `\b`, `\f`, `\n`, `\r`, `\t`, and `\u00xx`
in lowercase hexadecimal for the other control characters; everything else, non-ASCII
included, is written as it is. Object members keep their order.
-/

namespace Warden

/-- A JSON value. Integers are exact; a number that is not an integer is a binary64. -/
inductive Json where
  | null
  | bool (b : Bool)
  | int (n : Int)
  | float (v : Binary64)
  | str (s : String)
  | arr (xs : List Json)
  | obj (fields : List (String × Json))
  deriving Inhabited

namespace Json

/-- The value of an optional text: the text, or null. -/
def ofOption (s : Option String) : Json :=
  match s with
  | some t => str t
  | none => null

/-- The member of an object under a key, the last one if the key repeats. -/
def field? (v : Json) (key : String) : Option Json :=
  match v with
  | obj fields => (fields.reverse.find? (·.1 == key)).map (·.2)
  | _ => none

/-- Two lowercase hexadecimal digits. -/
def hex2 (n : Nat) : String :=
  let d (k : Nat) : Char := if k < 10 then Char.ofNat (48 + k) else Char.ofNat (87 + k)
  String.ofList [d (n / 16 % 16), d (n % 16)]

/-- The escaped form of one character inside a string. -/
def escapeChar (c : Char) : String :=
  match c with
  | '"' => "\\\""
  | '\\' => "\\\\"
  | '\n' => "\\n"
  | '\r' => "\\r"
  | '\t' => "\\t"
  | c =>
    if c.toNat = 8 then "\\b"
    else if c.toNat = 12 then "\\f"
    else if c.toNat < 0x20 then "\\u00" ++ hex2 c.toNat
    else c.toString

/-- A string between quotes, escaped. -/
def quote (s : String) : String :=
  "\"" ++ String.join (s.toList.map escapeChar) ++ "\""

mutual

/-- The compact text of a value. -/
def compact : Json → String
  | null => "null"
  | bool b => if b then "true" else "false"
  | int n => toString n
  | float v => v.compactText
  | str s => quote s
  | arr xs => "[" ++ compactItems xs ++ "]"
  | obj fs => "\x7b" ++ compactFields fs ++ "\x7d"

/-- The compact text of array items, separated by commas. -/
def compactItems : List Json → String
  | [] => ""
  | [x] => compact x
  | x :: xs => compact x ++ "," ++ compactItems xs

/-- The compact text of object members, separated by commas. -/
def compactFields : List (String × Json) → String
  | [] => ""
  | [(k, v)] => quote k ++ ":" ++ compact v
  | (k, v) :: fs => quote k ++ ":" ++ compact v ++ "," ++ compactFields fs

end

/-- Two spaces per level. -/
def indent (level : Nat) : String := String.ofList (List.replicate (2 * level) ' ')

mutual

/-- The pretty text of a value whose first line is already indented to `level`. -/
def pretty (level : Nat) : Json → String
  | arr [] => "[]"
  | obj [] => "\x7b\x7d"
  | arr xs => "[\n" ++ prettyItems (level + 1) xs ++ "\n" ++ indent level ++ "]"
  | obj fs => "\x7b\n" ++ prettyFields (level + 1) fs ++ "\n" ++ indent level ++ "\x7d"
  | v => compactScalar v

/-- Array items, one per line. -/
def prettyItems (level : Nat) : List Json → String
  | [] => ""
  | [x] => indent level ++ pretty level x
  | x :: xs => indent level ++ pretty level x ++ ",\n" ++ prettyItems level xs

/-- Object members, one per line. -/
def prettyFields (level : Nat) : List (String × Json) → String
  | [] => ""
  | [(k, v)] => indent level ++ quote k ++ ": " ++ pretty level v
  | (k, v) :: fs => indent level ++ quote k ++ ": " ++ pretty level v ++ ",\n" ++ prettyFields level fs

/-- The text of a value that is not a container. -/
def compactScalar : Json → String
  | null => "null"
  | bool b => if b then "true" else "false"
  | int n => toString n
  | float v => v.compactText
  | str s => quote s
  | arr _ => "[]"
  | obj _ => "\x7b\x7d"

end

/-- The pretty text of a document. -/
def prettyText (v : Json) : String := pretty 0 v

end Json

end Warden
