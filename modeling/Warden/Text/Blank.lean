/-!
# Blank characters

The Unicode `White_Space` property and trimming by it. Every character that core's
`Char.isWhitespace` accepts is blank here too, but the set is wider: it also holds the
no-break space U+00A0, the ideographic space U+3000 and the other space separators, while
the zero width space U+200B, which is a format character, is not blank.
-/

namespace Warden.Text

/-- The `White_Space` property of Unicode: the ASCII controls tab to carriage return, the
space, U+0085, and the line, paragraph and space separators. -/
def isBlank (c : Char) : Bool :=
  match c.toNat with
  | 0x09 | 0x0A | 0x0B | 0x0C | 0x0D | 0x20 | 0x85 | 0xA0 | 0x1680 => true
  | 0x2028 | 0x2029 | 0x202F | 0x205F | 0x3000 => true
  | n => 0x2000 ≤ n && n ≤ 0x200A

/-- Drops blank characters from both ends of a character list. -/
def trimChars (cs : List Char) : List Char :=
  ((cs.dropWhile isBlank).reverse.dropWhile isBlank).reverse

/-- Drops blank characters from both ends of a text. -/
def trim (s : String) : String :=
  String.ofList (trimChars s.toList)

/-- Drops blank characters from the start of a text. -/
def trimStart (s : String) : String :=
  String.ofList (s.toList.dropWhile isBlank)

theorem isBlank_of_isWhitespace (c : Char) (h : c.isWhitespace = true) : isBlank c = true := by
  simp only [Char.isWhitespace, Bool.or_eq_true, decide_eq_true_eq] at h
  rcases h with ((h | h) | h) | h <;> subst h <;> decide

example : isBlank '　' = true ∧ isBlank '​' = false ∧ isBlank ' ' = true := by
  decide

end Warden.Text
