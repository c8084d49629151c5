import Warden.Text.PrintData

/-!
# Quoted text

The quoted form of a text that diagnostics and record dumps show: the text between double
quotes, with a backslash before a quote or a backslash, the short escapes `\0`, `\t`, `\r`
and `\n`, and every other character that has no visible form of its own, or that would join
the character before it (a grapheme extender), written as `\u` followed by its hexadecimal
code point in lowercase between braces.
-/

namespace Warden.Text

/-- Lowercase hexadecimal digits of a number, without leading zeros. -/
def hexLower (n : Nat) : String :=
  String.ofList (Nat.toDigits 16 n)

/-- Whether a character is written as a code point escape inside quotes. -/
def needsCodeEscape (c : Char) : Bool :=
  unprintableTable.contains c.toNat || graphemeExtendTable.contains c.toNat

/-- The quoted form of one character. -/
def quoteChar (c : Char) : String :=
  match c with
  | '\x00' => "\\0"
  | '\t' => "\\t"
  | '\r' => "\\r"
  | '\n' => "\\n"
  | '\\' => "\\\\"
  | '"' => "\\\""
  | c =>
    if c.toNat ≥ 0x20 && c.toNat < 0x7F then c.toString
    else if needsCodeEscape c then "\\u\x7b" ++ hexLower c.toNat ++ "\x7d"
    else c.toString

/-- A character between single quotes, escaped as in a text except that the single quote is
escaped and the double quote is not. -/
def charQuoted (c : Char) : String :=
  let inner := match c with
    | '\x27' => "\\'"
    | '"' => "\""
    | c => quoteChar c
  "'" ++ inner ++ "'"

/-- A text between double quotes, escaped as described above. -/
def quoted (s : String) : String :=
  "\"" ++ String.join (s.toList.map quoteChar) ++ "\""

/-- A list of texts in brackets, each quoted, separated by a comma and a space. -/
def quotedList (xs : List String) : String :=
  "[" ++ ", ".intercalate (xs.map quoted) ++ "]"

end Warden.Text
