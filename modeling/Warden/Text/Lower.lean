import Warden.Text.CaseData

/-!
# Lowercase

Full Unicode lowercasing of a text. Each character takes its simple lowercase from the case
data, with two rules on top:

* U+0130 (capital I with dot above) becomes two characters, `i` and the combining dot
  U+0307, so that the dot is kept;
* a capital sigma becomes the final form `ς` when it ends a word, and `σ` otherwise. It ends
  a word when, skipping case-ignorable characters, a cased character stands before it and
  none stands after it.

The word context is read in the text before lowercasing.
-/

namespace Warden.Text

/-- Whether a character is cased (has the `Cased` property). -/
def isCased (c : Char) : Bool := casedTable.contains c.toNat

/-- Whether a character is ignored when looking for cased neighbours. -/
def isCaseIgnorable (c : Char) : Bool := caseIgnorableTable.contains c.toNat

/-- The simple lowercase of a character; ASCII is mapped without the table. -/
def lowerSimple (c : Char) : Char :=
  if c.toNat < 0x80 then c.toLower
  else match lowercaseRuns.image? c.toNat with
    | some n => Char.ofNat n
    | none => c

/-- The lowercase of one character outside any word context. -/
def lowerChar (c : Char) : List Char :=
  if c.toNat = 0x130 then ['i', '̇'] else [lowerSimple c]

/-- Whether the first character that is not case-ignorable is cased. -/
def casedPastIgnorable (cs : List Char) : Bool :=
  match cs.dropWhile isCaseIgnorable with
  | c :: _ => isCased c
  | [] => false

/-- Whether a capital sigma between `before` (nearest first) and `after` ends a word. -/
def endsWord (before after : List Char) : Bool :=
  casedPastIgnorable before && !casedPastIgnorable after

/-- Lowercases `cs`, where `before` holds the characters already passed, nearest first. -/
def lowerFrom (before : List Char) : List Char → List Char
  | [] => []
  | c :: rest =>
    let here := if c = 'Σ' then [if endsWord before rest then 'ς' else 'σ'] else lowerChar c
    here ++ lowerFrom (c :: before) rest

/-- The full lowercase of a text. -/
def lowercase (s : String) : String :=
  String.ofList (lowerFrom [] s.toList)

end Warden.Text
