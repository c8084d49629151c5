import Warden.Proofs.RelaxedSteps
import Warden.Proofs.JsonRead
import Warden.Proofs.Calendar
import Warden.Relaxed.Decode

/-!
# Pretty JSON read by the relaxed reader

The configuration is written as pretty JSON and read back in the relaxed syntax, which is meant
to take JSON as it is. This module shows the relaxed grammar reads the pretty text of a value
into a parse tree that stands for the value (`Stands`), for every value it can hold
(`Json.Relaxable`): numbers that are integers, and texts and keys without U+2028 and U+2029.
Those two characters the pretty writer leaves as they are, while the relaxed syntax refuses them
inside strings as line breaks; a number that is not an integer is written in a form of its own.

## Strings

The writer escapes a character in one of three ways (`escapeChar_forms`): a short escape, a
`\u00` escape for the other control characters, or the character itself. Each of them is one
step of the string loop and one part of the string node, which reads back as the character
(`Decodes`).

## Containers and fuel

Values nest through `value`, `object` and `array`, each taking one step of fuel from the value
above. A container's text is longer than each of its items' by more than two, so a value is read
with any fuel past the length of its text, and the document is given twice its length and two
more.
-/

namespace Warden

namespace Text.RangeTable

/-- A range found by the search holds the point. -/
theorem memBetween_spec {rs : Array (Nat × Nat)} {n lo hi : Nat} (hhi : hi ≤ rs.size)
    (h : memBetween rs n lo hi = true) : ∃ r ∈ rs.toList, r.1 ≤ n ∧ n ≤ r.2 := by
  fun_induction memBetween rs n lo hi with
  | case1 lo hi hlt mid r hn ih => exact ih (by omega) h
  | case2 lo hi hlt mid r hn hn' ih => exact ih hhi h
  | case3 lo hi hlt mid r hn hn' =>
    -- the middle range is inside the array, since `mid < hi`
    have hmid : mid < rs.size := by omega
    have hr : r = rs[mid] := by simp [r, hmid]
    refine ⟨r, ?_, by omega, by omega⟩
    rw [hr, Array.mem_toList_iff]
    exact Array.getElem_mem hmid
  | case4 lo hi hge => cases h

/-- A point outside every range is not in the table. -/
theorem contains_eq_false {t : RangeTable} {n : Nat} (h : ∀ r ∈ t.ranges.toList, n < r.1 ∨ r.2 < n) :
    t.contains n = false := by
  cases hc : t.contains n with
  | false => rfl
  | true =>
    obtain ⟨r, hr, hlo, hhi⟩ := memBetween_spec le_rfl hc
    rcases h r hr with h' | h' <;> omega

end Text.RangeTable

namespace Json

/-- A text without U+2028 and U+2029, which the pretty writer leaves as they are. -/
def NoLineSeparator (s : String) : Prop := ∀ c ∈ s.toList, c.toNat ≠ 0x2028 ∧ c.toNat ≠ 0x2029

-- decided along the text: an instance for a statement about every character would try them all
instance : DecidablePred NoLineSeparator := fun s => List.decidableBAll _ s.toList

/-- A value the relaxed reader reads back from its pretty text: its numbers are integers, and
its texts and keys hold no U+2028 or U+2029. -/
inductive Relaxable : Json → Prop where
  | null : Relaxable .null
  | bool (b : Bool) : Relaxable (.bool b)
  | int (n : Int) : Relaxable (.int n)
  | str {s : String} (hs : NoLineSeparator s) : Relaxable (.str s)
  | arr {xs : List Json} (h : ∀ x ∈ xs, Relaxable x) : Relaxable (.arr xs)
  | obj {fs : List (String × Json)} (hk : ∀ m ∈ fs, NoLineSeparator m.1) (h : ∀ m ∈ fs, Relaxable m.2) :
      Relaxable (.obj fs)

@[simp] theorem relaxable_str {s : String} : Relaxable (.str s) ↔ NoLineSeparator s :=
  ⟨fun h => by cases h with | str h => exact h, .str⟩

@[simp] theorem relaxable_arr {xs : List Json} : Relaxable (.arr xs) ↔ ∀ x ∈ xs, Relaxable x :=
  ⟨fun h => by cases h with | arr h => exact h, .arr⟩

@[simp] theorem relaxable_obj {fs : List (String × Json)} :
    Relaxable (.obj fs) ↔ (∀ m ∈ fs, NoLineSeparator m.1) ∧ ∀ m ∈ fs, Relaxable m.2 :=
  ⟨fun h => by cases h with | obj hk h => exact ⟨hk, h⟩, fun h => .obj h.1 h.2⟩

attribute [simp] Relaxable.null Relaxable.bool Relaxable.int

theorem toList_indent (L : Nat) : (indent L).toList = List.replicate (2 * L) ' ' := by
  simp [indent]

theorem toList_prettyItems_cons (L : Nat) (x : Json) (xs : List Json) :
    (prettyItems L (x :: xs)).toList = (indent L).toList ++ (pretty L x).toList ++
      xs.flatMap (fun y => ',' :: '\n' :: (indent L).toList ++ (pretty L y).toList) := by
  induction xs generalizing x with
  | nil => simp [prettyItems]
  | cons y ys ih =>
    rw [prettyItems.eq_3 _ _ _ (by simp)]
    simp [ih]

theorem toList_prettyFields_cons (L : Nat) (m : String × Json) (fs : List (String × Json)) :
    (prettyFields L (m :: fs)).toList = (indent L).toList ++ (quote m.1).toList ++ ':' :: ' ' :: (pretty L m.2).toList ++
      fs.flatMap (fun f => ',' :: '\n' :: (indent L).toList ++ ((quote f.1).toList ++ ':' :: ' ' :: (pretty L f.2).toList)) := by
  induction fs generalizing m with
  | nil => simp [prettyFields]
  | cons f fs ih =>
    obtain ⟨k, v⟩ := m
    rw [prettyFields.eq_3 _ _ _ _ (by simp)]
    simp [ih]

theorem toList_pretty_arr_cons (L : Nat) (x : Json) (xs : List Json) :
    (pretty L (.arr (x :: xs))).toList =
      '[' :: '\n' :: (prettyItems (L + 1) (x :: xs)).toList ++ '\n' :: (indent L).toList ++ [']'] := by
  rw [pretty.eq_3 _ _ (by simp)]
  simp

theorem toList_pretty_obj_cons (L : Nat) (m : String × Json) (fs : List (String × Json)) :
    (pretty L (.obj (m :: fs))).toList =
      '\x7b' :: '\n' :: (prettyFields (L + 1) (m :: fs)).toList ++ '\n' :: (indent L).toList ++ ['\x7d'] := by
  rw [pretty.eq_4 _ _ (by simp)]
  simp

theorem toList_pretty_arr_head (L : Nat) (xs : List Json) : ∃ t, (pretty L (.arr xs)).toList = '[' :: t := by
  cases xs with
  | nil => exact ⟨[']'], by simp [pretty]⟩
  | cons x xs => exact ⟨_, toList_pretty_arr_cons L x xs⟩

theorem toList_pretty_obj_head (L : Nat) (fs : List (String × Json)) :
    ∃ t, (pretty L (.obj fs)).toList = '\x7b' :: t := by
  cases fs with
  | nil => exact ⟨['\x7d'], by simp [pretty]⟩
  | cons m fs => exact ⟨_, toList_pretty_obj_cons L m fs⟩

end Json

namespace Relaxed

variable {input : Array Char} {i : Nat}

/-! ## Blanks -/

theorem spaceSeparatorTable_ascii : ∀ r ∈ Text.spaceSeparatorTable.ranges.toList, r.2 < 33 ∨ 127 ≤ r.1 := by
  decide +kernel

/-- No printable ASCII character but the space is a blank. -/
theorem isBlankChar_eq_false {c : Char} (h₁ : 33 ≤ c.toNat) (h₂ : c.toNat < 127) : isBlankChar c = false := by
  have htable : Text.spaceSeparatorTable.contains c.toNat = false :=
    Text.RangeTable.contains_eq_false fun r hr => by
      rcases spaceSeparatorTable_ascii r hr with h | h <;> omega
  have h32 : c ≠ ' ' := by
    rintro rfl
    exact absurd h₁ (by decide)
  have h10 : c ≠ '\n' := by
    rintro rfl
    exact absurd h₁ (by decide)
  have h13 : c ≠ '\r' := by
    rintro rfl
    exact absurd h₁ (by decide)
  simp only [isBlankChar, isLineTerminator, htable, h32, h10, h13, decide_false, Bool.or_false,
    Bool.false_or, Bool.or_eq_false_iff, decide_eq_false_iff_not]
  omega

theorem isBlankChar_space : isBlankChar ' ' = true := by
  simp [isBlankChar]

theorem isBlankChar_newline : isBlankChar '\n' = true := by
  simp [isBlankChar, isLineTerminator]

/-- What may follow a gap: nothing, or a character that is no blank and starts no comment. -/
def GapEnd (r : List Char) : Prop := ∀ c t, r = c :: t → isBlankChar c = false ∧ c ≠ '/'

theorem gapEnd_nil : GapEnd [] := fun _ _ h => (List.cons_ne_nil _ _ h.symm).elim

theorem gapEnd_cons {c : Char} {t : List Char} (h₁ : 33 ≤ c.toNat) (h₂ : c.toNat < 127) (h₃ : c ≠ '/') :
    GapEnd (c :: t) := by
  intro d u h
  obtain ⟨rfl, -⟩ := List.cons.inj h
  exact ⟨isBlankChar_eq_false h₁ h₂, h₃⟩

/-- A text is not found where the character in front differs from its first letter. -/
theorem not_prefix_of_head {d : Char} {ds r : List Char} (h : ∀ c t, r = c :: t → c ≠ d) :
    ¬ (d :: ds) <+: r := by
  rintro ⟨u, hu⟩
  exact h d _ hu.symm rfl

theorem misses_lit_head {t : String} {d : Char} {ds : List Char} (ht : t.toList = d :: ds)
    (h : ∀ c u, after input i = c :: u → c ≠ d) : Misses (lit t) input i :=
  misses_lit (by rw [ht]; exact not_prefix_of_head h)

theorem misses_comment {r : List Char} (h : after input i = r) (hr : GapEnd r) : Misses comment input i := by
  have hslash : ∀ c u, after input i = c :: u → c ≠ '/' := fun c u hcu => (hr c u (h ▸ hcu)).2
  unfold comment
  exact (Misses.seqRight (Misses.seqRight (misses_lit_head rfl hslash))).fails.undoable.first
    (Misses.seqRight (misses_lit_head rfl hslash)).fails.undoable

/-- A gap takes the blanks in front and stops at what may follow a gap. -/
theorem takes_gap {bs r : List Char} (h : after input i = bs ++ r) (hbs : ∀ c ∈ bs, isBlankChar c = true)
    (hr : GapEnd r) : Takes gap input i (i + bs.length) () := by
  unfold gap
  refine Takes.undoable ((takes_manyChars_charWith h hbs fun c t hct => (hr c t hct).1).bind ?_)
  exact (misses_comment (after_append h) hr).seqRight.fails.undoable.takes_manyChars

/-- A gap before what may follow a gap takes nothing. -/
theorem takes_gap_nil {r : List Char} (h : after input i = r) (hr : GapEnd r) : Takes gap input i i () := by
  have htake := takes_gap (show after input i = [] ++ r by rw [h, List.nil_append]) (by simp) hr
  rwa [List.length_nil, Nat.add_zero] at htake

/-! ## Strings -/

theorem head_of_after {c d : Char} {r u : List Char} (h : after input i = c :: r)
    (h' : after input i = d :: u) : d = c := by
  rw [h] at h'
  exact (List.cons.inj h').1.symm

/-- A node spanning characters that come next has them as its text. -/
theorem text_of_after {w r : List Char} (rl : Rule) (cs : List Node) (h : after input i = w ++ r) :
    (Node.mk rl i (i + w.length) cs).text input = String.ofList w := by
  rw [Node.text, Node.start, Node.stop, Array.toList_extract, List.extract_eq_take_drop,
    Nat.add_sub_cancel_left, ← after, h, List.take_left]

theorem isLineTerminator_eq_false {c : Char} (h32 : 0x20 ≤ c.toNat) (hc : c.toNat ≠ 0x2028 ∧ c.toNat ≠ 0x2029) :
    isLineTerminator c = false := by
  have hn : c ≠ '\n' := by
    rintro rfl
    exact absurd h32 (by decide)
  have hr : c ≠ '\r' := by
    rintro rfl
    exact absurd h32 (by decide)
  simp [isLineTerminator, hn, hr, hc.1, hc.2]

/-- How the writer puts a character inside a string: a backslash and a letter the reader takes
as a single escape, `\u00` and two hexadecimal digits for the other control characters, or the
character itself, which then neither ends nor escapes the string. -/
theorem escapeChar_forms (c : Char) :
    (∃ e, (Json.escapeChar c).toList = ['\\', e] ∧ "'\"\\bfnrtv".toList.contains e = true ∧
      escaped (String.singleton e) = String.singleton c) ∨
    ((Json.escapeChar c).toList = ['\\', 'u', '0', '0'] ++ (Json.hex2 c.toNat).toList ∧ c.toNat < 0x20) ∨
    ((Json.escapeChar c).toList = [c] ∧ c ≠ '"' ∧ c ≠ '\\' ∧ 0x20 ≤ c.toNat) := by
  by_cases hq : c = '"'
  · subst hq
    exact .inl ⟨'"', by decide, by decide, by decide⟩
  by_cases hb : c = '\\'
  · subst hb
    exact .inl ⟨'\\', by decide, by decide, by decide⟩
  by_cases h32 : c.toNat < 0x20
  · -- a control character: five have a letter of their own, the others are written in hexadecimal
    have hof : ∀ n, c.toNat = n → c = Char.ofNat n := fun n hn => by rw [← hn, Char.ofNat_toNat]
    by_cases h8 : c.toNat = 8
    · obtain rfl := hof 8 h8
      exact .inl ⟨'b', by decide, by decide, by decide⟩
    by_cases h9 : c.toNat = 9
    · obtain rfl := hof 9 h9
      exact .inl ⟨'t', by decide, by decide, by decide⟩
    by_cases h10 : c.toNat = 10
    · obtain rfl := hof 10 h10
      exact .inl ⟨'n', by decide, by decide, by decide⟩
    by_cases h12 : c.toNat = 12
    · obtain rfl := hof 12 h12
      exact .inl ⟨'f', by decide, by decide, by decide⟩
    by_cases h13 : c.toNat = 13
    · obtain rfl := hof 13 h13
      exact .inl ⟨'r', by decide, by decide, by decide⟩
    refine .inr (.inl ⟨?_, h32⟩)
    rw [Json.escapeChar_control h32 h8 h9 h10 h12 h13, String.toList_append]
    rfl
  · refine .inr (.inr ⟨?_, hq, hb, by omega⟩)
    rw [Json.escapeChar_plain h32 hq hb]
    simp [Char.toString]

theorem escapeChar_length_pos (c : Char) : 0 < (Json.escapeChar c).toList.length := by
  rcases escapeChar_forms c with ⟨e, he, -⟩ | ⟨he, -⟩ | ⟨he, -⟩ <;> simp [he]

/-- The two digits that `\u00` takes for a control character, and what they read as. -/
theorem hex2_control : ∀ n < 0x20, ((Json.hex2 n).toList.all isHexDigit &&
    (Json.hex2 n).toList.length == 2 && hexU32 (['0', '0'] ++ (Json.hex2 n).toList) == some n) = true := by
  decide

theorem charOf?_toNat (c : Char) : charOf? c.toNat = some c := by
  have hvalid : c.toNat.isValidChar := by
    rcases Text.toNat_isValid c with h | h
    · exact Or.inl h
    · exact Or.inr ⟨h.1, h.2⟩
  rw [charOf?, dif_pos hvalid]
  congr
  rw [← Char.toNat_val]
  exact UInt32.ofNat_toNat

theorem takes_charLiteral {c : Char} {r : List Char} (h : after input i = c :: r) (hb : c ≠ '\\')
    (hl : isLineTerminator c = false) :
    Takes charLiteral input i (i + 1) [Node.mk .charLiteral i (i + 1) []] := by
  have hstop : Fails (first (lit "\\") lineTerminator) input i :=
    ((misses_lit_head rfl fun d u hd => head_of_after h hd ▸ hb).first
      (misses_charWith fun d u hd => head_of_after h hd ▸ hl)).fails
  unfold charLiteral
  exact ((hstop.notAhead.seqRight (takes_charWith h rfl)).undoable.seqRight (takes_pure [])).named
    .charLiteral false

/-- A line continuation starts with a backslash. -/
theorem misses_lineContinuation (hback : Misses (lit "\\") input i) : Misses lineContinuation input i := by
  unfold lineContinuation
  exact hback.seqRight.fails.undoable

/-- A character that is neither a quote nor a backslash nor a line break is read as itself. -/
theorem takes_quotedChar_plain {c : Char} {r : List Char} (h : after input i = c :: r) (hq : c ≠ '"')
    (hb : c ≠ '\\') (hl : isLineTerminator c = false) :
    Takes (quotedChar "\"") input i (i + 1) [Node.mk .charLiteral i (i + 1) []] := by
  have hback : Misses (lit "\\") input i := misses_lit_head rfl fun d u hd => head_of_after h hd ▸ hb
  have hcont := misses_lineContinuation hback
  have hquote : Misses (lit "\"") input i := misses_lit_head rfl fun d u hd => head_of_after h hd ▸ hq
  unfold quotedChar
  exact hback.seqRight.fails.undoable.first_takes (hcont.seqRight.first_takes
    (hquote.fails.notAhead.seqRight (takes_charLiteral h hb hl)).undoable)

/-- A backslash and a letter of a single escape are read as a character escape. -/
theorem takes_quotedChar_short {e : Char} {r : List Char} (h : after input i = '\\' :: e :: r)
    (he : "'\"\\bfnrtv".toList.contains e = true) :
    Takes (quotedChar "\"") input i (i + 2) [Node.mk .charEscape (i + 1) (i + 2) []] := by
  have he' : after input (i + 1) = e :: r := after_append (w := ['\\']) h
  have hesc : Takes charEscape input (i + 1) (i + 2) [Node.mk .charEscape (i + 1) (i + 2) []] :=
    ((takes_charWith he' he).first.seqRight (takes_pure [])).named .charEscape false
  unfold quotedChar escapeSequence
  exact ((takes_lit (show after input i = "\\".toList ++ e :: r from h)).seqRight hesc.first).undoable.first

theorem takes_hexDigits : ∀ (w : List Char) {j : Nat} {r : List Char}, after input j = w ++ r →
    (∀ c ∈ w, isHexDigit c = true) → Takes (hexDigits w.length) input j (j + w.length) ()
  | [], _, _, _, _ => takes_pure ()
  | c :: w, j, r, h, hw => by
    have hrest := takes_hexDigits w (after_append (w := [c]) h) fun d hd => hw d (List.mem_cons_of_mem _ hd)
    have hpos : j + (c :: w).length = j + 1 + w.length := by
      simp only [List.length_cons]
      omega
    rw [hpos]
    exact (takes_charWith h (hw c List.mem_cons_self)).seqRight hrest

/-- A backslash, `u` and four hexadecimal digits are read as a unicode escape: `u` is no single
escape, no digit and no `x`, so only the last kind of escape takes it. -/
theorem takes_quotedChar_unicode {hex r : List Char} (h : after input i = '\\' :: 'u' :: hex ++ r)
    (hlen : hex.length = 4) (hhex : ∀ c ∈ hex, isHexDigit c = true) :
    Takes (quotedChar "\"") input i (i + 6) [Node.mk .unicodeEscape (i + 2) (i + 6) []] := by
  have hu : after input (i + 1) = 'u' :: hex ++ r := after_append (w := ['\\']) h
  have hdigits : after input (i + 2) = hex ++ r := after_append (w := ['\\', 'u']) h
  have hnot : ∀ (ok : Char → Bool), ok 'u' = false → Misses (charWith ok) input (i + 1) :=
    fun ok hok => misses_charWith fun d t hd => head_of_after hu hd ▸ hok
  have hsingle : Misses singleEscape input (i + 1) := hnot _ (by decide)
  have hletter : Takes (first singleEscape (first (charWith isDigit) (first (lit "x") (lit "u"))))
      input (i + 1) (i + 2) () :=
    hsingle.first_takes ((hnot _ (by decide)).first_takes
      ((misses_lit_head rfl fun d t hd => head_of_after hu hd ▸ (by decide)).first_takes
        (takes_lit (show after input (i + 1) = "u".toList ++ hex ++ r from hu))))
  have hesc : Misses charEscape input (i + 1) := by
    unfold charEscape
    exact (hsingle.first hletter.orElse.notAhead.seqRight.fails.undoable).seqRight.named .charEscape false
  have hnul : Misses nulEscape input (i + 1) := by
    unfold nulEscape
    exact (misses_lit_head rfl fun d t hd => head_of_after hu hd ▸ (by decide)).seqRight.named .nulEscape false
  have hx : Misses (undoable (lit "x" *> hexEscape)) input (i + 1) :=
    (misses_lit_head rfl fun d t hd => head_of_after hu hd ▸ (by decide)).seqRight.fails.undoable
  have hdigits4 : Takes (hexDigits 4) input (i + 2) (i + 6) () := by
    have htake := takes_hexDigits hex hdigits hhex
    rwa [hlen] at htake
  have huni : Takes unicodeEscape input (i + 2) (i + 6) [Node.mk .unicodeEscape (i + 2) (i + 6) []] :=
    (hdigits4.undoable.seqRight (takes_pure [])).named .unicodeEscape false
  unfold quotedChar escapeSequence
  exact ((takes_lit (show after input i = "\\".toList ++ 'u' :: hex ++ r from h)).seqRight
    (hesc.first_takes (hnul.first_takes (hx.first_takes
      ((takes_lit (show after input (i + 1) = "u".toList ++ hex ++ r from hu)).seqRight huni).undoable)))).undoable.first

/-- The closing quote ends the string loop. -/
theorem misses_quotedChar_close {r : List Char} (h : after input i = '"' :: r) :
    Misses (quotedChar "\"") input i := by
  have hback : Misses (lit "\\") input i := misses_lit_head rfl fun d u hd => head_of_after h hd ▸ (by decide)
  have hcont := misses_lineContinuation hback
  unfold quotedChar
  exact hback.seqRight.fails.undoable.first (hcont.seqRight.first
    (takes_lit (show after input i = "\"".toList ++ r from h)).notAhead.seqRight.fails.undoable)

/-- A part of a string stands for the character `c`: read in front of the parts after it, it puts
`c` in front of what they read as. -/
def Decodes (input : Array Char) (n : Node) (c : Char) : Prop :=
  ∀ ns, partsText input (n :: ns) = (String.singleton c ++ ·) <$> partsText input ns

theorem decodes_charLiteral {c : Char} {r : List Char} (h : after input i = c :: r) :
    Decodes input (Node.mk .charLiteral i (i + 1) []) c := by
  have ht : (Node.mk .charLiteral i (i + 1) []).text input = String.singleton c := by
    rw [String.singleton_eq_ofList]
    exact text_of_after (w := [c]) .charLiteral [] h
  intro ns
  rw [partsText]
  simp only [Node.rule, ht]

theorem decodes_charEscape {c e : Char} {r : List Char} (h : after input (i + 1) = e :: r)
    (he : escaped (String.singleton e) = String.singleton c) :
    Decodes input (Node.mk .charEscape (i + 1) (i + 2) []) c := by
  have ht : (Node.mk .charEscape (i + 1) (i + 2) []).text input = String.singleton e := by
    rw [String.singleton_eq_ofList]
    exact text_of_after (w := [e]) .charEscape [] h
  intro ns
  rw [partsText]
  simp only [Node.rule, ht, he]

/-- Four hexadecimal digits that spell a character below the surrogates read as it. -/
theorem decodes_unicodeEscape {c : Char} {hex r : List Char} (h : after input (i + 2) = hex ++ r)
    (hlen : hex.length = 4) (hv : hexU32 hex = some c.toNat) (hc : c.toNat < 0xD800) :
    Decodes input (Node.mk .unicodeEscape (i + 2) (i + 6) []) c := by
  have ht : (Node.mk .unicodeEscape (i + 2) (i + 6) []).text input = String.ofList hex := by
    have htext := text_of_after .unicodeEscape [] h
    rwa [hlen] at htext
  have hparse : parseHex (String.ofList hex).toList = .ok c.toNat := by
    rw [String.toList_ofList, parseHex, hv]
  intro ns
  rw [partsText]
  simp only [Node.rule, ht, hparse]
  dsimp only [bind, Except.bind]
  rw [if_neg (by omega), if_neg (by omega), charOf?_toNat]

/-- Each character of a text, as the writer escapes it, is one step of the string loop and one
part that reads back as the character. -/
theorem takes_quotedChar_escapeChar {c : Char} {r : List Char} (hc : c.toNat ≠ 0x2028 ∧ c.toNat ≠ 0x2029)
    (h : after input i = (Json.escapeChar c).toList ++ r) :
    ∃ n, Takes (quotedChar "\"") input i (i + (Json.escapeChar c).toList.length) [n] ∧ Decodes input n c := by
  rcases escapeChar_forms c with ⟨e, he, hsingle, hesc⟩ | ⟨he, h32⟩ | ⟨he, hq, hb, h32⟩
  · rw [he] at h ⊢
    exact ⟨_, takes_quotedChar_short h hsingle, decodes_charEscape (after_append (w := ['\\']) h) hesc⟩
  · -- a control character without a letter: `\u00` and the two digits of its value
    have hhex := hex2_control c.toNat h32
    simp only [Bool.and_eq_true, List.all_eq_true, beq_iff_eq] at hhex
    obtain ⟨⟨hdigits, hlen⟩, hv⟩ := hhex
    have h' : after input i = '\\' :: 'u' :: (['0', '0'] ++ (Json.hex2 c.toNat).toList) ++ r := by
      rw [h, he]
      rfl
    have hlen4 : (['0', '0'] ++ (Json.hex2 c.toNat).toList).length = 4 := by simp [hlen]
    have hall : ∀ d ∈ ['0', '0'] ++ (Json.hex2 c.toNat).toList, isHexDigit d = true := by
      intro d hd
      rcases List.mem_append.1 hd with hd | hd
      · simp only [List.mem_cons, List.not_mem_nil, or_false, or_self] at hd
        subst hd
        decide
      · exact hdigits d hd
    have hpos : i + (Json.escapeChar c).toList.length = i + 6 := by simp [he, hlen]
    rw [hpos]
    exact ⟨_, takes_quotedChar_unicode h' hlen4 hall,
      decodes_unicodeEscape (after_append (w := ['\\', 'u']) h') hlen4 hv (by omega)⟩
  · rw [he] at h ⊢
    exact ⟨_, takes_quotedChar_plain h hq hb (isLineTerminator_eq_false h32 hc), decodes_charLiteral h⟩

/-- The escaped characters of a text, up to where the string loop stops, are one finished run of
it, whose parts read back as the text. -/
theorem runs_quotedChars {rest : List Char}
    (hstop : ∀ q, after input q = rest → Misses (quotedChar "\"") input q) : ∀ (cs : List Char) {i : Nat},
    (∀ c ∈ cs, c.toNat ≠ 0x2028 ∧ c.toNat ≠ 0x2029) →
    after input i = cs.flatMap (fun c => (Json.escapeChar c).toList) ++ rest →
    ∃ parts, Runs (quotedChar "\"") input i (i + (cs.flatMap fun c => (Json.escapeChar c).toList).length)
      parts ∧ partsText input parts = .ok (String.ofList cs)
  | [], i, _, h => ⟨[], Runs.stop (hstop i h), rfl⟩
  | c :: cs, i, hcs, h => by
    rw [List.flatMap_cons, List.append_assoc] at h
    obtain ⟨n, hstep, hdec⟩ := takes_quotedChar_escapeChar (hcs c List.mem_cons_self) h
    obtain ⟨parts, hrun, htext⟩ :=
      runs_quotedChars hstop cs (fun d hd => hcs d (List.mem_cons_of_mem _ hd)) (after_append h)
    refine ⟨n :: parts, ?_, ?_⟩
    · rw [List.flatMap_cons, List.length_append, ← Nat.add_assoc]
      exact Runs.step hstep (by have := escapeChar_length_pos c; omega) hrun
    · rw [hdec parts, htext, String.ofList_cons]
      rfl

theorem toList_quote (s : String) :
    (Json.quote s).toList = '"' :: s.toList.flatMap (fun c => (Json.escapeChar c).toList) ++ ['"'] := by
  simp [Json.quote, List.flatMap_map]

/-- A text as the writer quotes it is read as one string node whose parts read back as the text. -/
theorem takes_string {s : String} (hs : Json.NoLineSeparator s) {r : List Char}
    (h : after input i = (Json.quote s).toList ++ r) :
    ∃ parts, Takes string input i (i + (Json.quote s).toList.length)
      [Node.mk .string i (i + (Json.quote s).toList.length) parts] ∧ partsText input parts = .ok s := by
  have hopen : after input i = "\"".toList ++ ((s.toList.flatMap fun c => (Json.escapeChar c).toList) ++ '"' :: r) := by
    rw [h, toList_quote]
    simp
  have hbody := after_append hopen
  obtain ⟨parts, hrun, htext⟩ := runs_quotedChars (fun _ hq => misses_quotedChar_close hq) s.toList hs hbody
  have hclose := after_append (w := (s.toList.flatMap fun c => (Json.escapeChar c).toList)) hbody
  have hlen : i + (Json.quote s).toList.length =
      i + 1 + (s.toList.flatMap fun c => (Json.escapeChar c).toList).length + 1 := by
    rw [toList_quote]
    simp only [List.length_cons, List.length_append, List.length_nil]
    omega
  refine ⟨parts, ?_, by rw [htext, String.ofList_toList]⟩
  rw [hlen]
  unfold string
  exact ((((takes_lit hopen).seqRight (hrun.takes_many (by have := length_le_of_after hbody; omega))).seqLeft
    (takes_lit (show after input _ = "\"".toList ++ r from hclose))).undoable.first).named .string true

/-! ## Scalars -/

/-- What may follow a value in pretty text: nothing, a comma, or a line break. -/
def ValueEnd (r : List Char) : Prop := ∀ c t, r = c :: t → c = ',' ∨ c = '\n'

theorem valueEnd_nil : ValueEnd [] := fun _ _ h => (List.cons_ne_nil _ _ h.symm).elim

theorem misses_lit_of_head {t : String} {c d : Char} {ds r : List Char} (ht : t.toList = d :: ds)
    (h : after input i = c :: r) (hc : c ≠ d) : Misses (lit t) input i :=
  misses_lit_head ht fun _ _ hd => head_of_after h hd ▸ hc

theorem misses_charWith_of_head {ok : Char → Bool} {c : Char} {r : List Char} (h : after input i = c :: r)
    (hc : ok c = false) : Misses (charWith ok) input i :=
  misses_charWith fun _ _ hd => head_of_after h hd ▸ hc

/-- A text is not spelled where one of its letters differs from the character in its place, or
where the input ends before it. -/
theorem spells_eq_false {at_ k : Nat} {cs : List Char} {fold : Bool} (hk : k < cs.length)
    (h : ∀ c u, after input (at_ + k) = c :: u →
      (if fold then c.toLower == cs[k].toLower else c == cs[k]) = false) :
    spells input at_ cs fold = false := by
  rw [Bool.eq_false_iff]
  intro hall
  unfold spells at hall
  have hmem : (cs[k], k) ∈ cs.zipIdx := List.mem_zipIdx_iff_getElem?.2 (List.getElem?_eq_getElem hk)
  have hk' := List.all_eq_true.1 hall _ hmem
  dsimp only at hk'
  cases hc : input[at_ + k]? with
  | none => simp only [hc] at hk'; cases hk'
  | some c =>
    have hafter : after input (at_ + k) = c :: after input (at_ + k + 1) := after_eq_cons hc
    simp only [hc, h c _ hafter] at hk'
    cases hk'

theorem spells_head_eq_false {at_ : Nat} {d : Char} {ds : List Char} {fold : Bool}
    (h : ∀ c u, after input at_ = c :: u → (if fold then c.toLower == d.toLower else c == d) = false) :
    spells input at_ (d :: ds) fold = false :=
  spells_eq_false (k := 0) (by simp) h

theorem spells_second_eq_false {at_ : Nat} {d e : Char} {es : List Char} {fold : Bool}
    (h : ∀ c u, after input (at_ + 1) = c :: u → (if fold then c.toLower == e.toLower else c == e) = false) :
    spells input at_ (d :: e :: es) fold = false :=
  spells_eq_false (k := 1) (by simp) h

theorem toLower_eq_self {c : Char} (h : c.toNat < 65 ∨ 90 < c.toNat) : c.toLower = c := by
  unfold Char.toLower
  rw [dif_neg]
  simp only [ge_iff_le, UInt32.le_iff_toNat_le, Char.toNat_val, not_and, Nat.not_le]
  intro h'
  have hA : ('A' : Char).toNat = 65 := rfl
  have hZ : ('Z' : Char).toNat = 90 := rfl
  omega

theorem ne_of_isDigit {c d : Char} (hc : isDigit c = true) (hd : isDigit d = false) : c ≠ d := by
  rintro rfl
  rw [hc] at hd
  cases hd

theorem isDigit_iff {c : Char} : isDigit c = true ↔ 48 ≤ c.toNat ∧ c.toNat ≤ 57 := by
  simp [isDigit, Char.le_def, UInt32.le_iff_toNat_le]

/-- Nothing that may follow a value continues a number. -/
theorem ValueEnd.not_digit {r : List Char} (hr : ValueEnd r) (ok : Char → Bool) (hc : ok ',' = false)
    (hn : ok '\n' = false) : ∀ c t, r = c :: t → ok c = false := by
  intro c t hct
  rcases hr c t hct with rfl | rfl
  · exact hc
  · exact hn

theorem takes_nullValue {r : List Char} (h : after input i = "null".toList ++ r) :
    Takes nullValue input i (i + 4) [Node.mk .null i (i + 4) []] := by
  unfold nullValue
  exact ((takes_lit h).seqRight (takes_pure [])).named .null false

theorem takes_boolean (b : Bool) {r : List Char}
    (h : after input i = (if b then "true" else "false").toList ++ r) :
    Takes boolean input i (i + (if b then "true" else "false").length)
      [Node.mk .boolean i (i + (if b then "true" else "false").length) []] := by
  unfold boolean
  cases b with
  | true => exact ((takes_lit h).first.seqRight (takes_pure [])).named .boolean false
  | false =>
    exact (((misses_lit_of_head rfl h (by decide)).first_takes (takes_lit h)).seqRight (takes_pure [])).named
      .boolean false

theorem misses_nullValue {c : Char} {r : List Char} (h : after input i = c :: r) (hc : c ≠ 'n') :
    Misses nullValue input i := by
  unfold nullValue
  exact (misses_lit_of_head rfl h hc).seqRight.named .null false

theorem misses_boolean {c : Char} {r : List Char} (h : after input i = c :: r) (ht : c ≠ 't') (hf : c ≠ 'f') :
    Misses boolean input i := by
  unfold boolean
  exact ((misses_lit_of_head rfl h ht).first (misses_lit_of_head rfl h hf)).seqRight.named .boolean false

theorem misses_string {c : Char} {r : List Char} (h : after input i = c :: r) (hq : c ≠ '"') (ha : c ≠ '\'') :
    Misses string input i := by
  unfold string
  exact ((misses_lit_of_head rfl h hq).seqRight.fails.seqLeft.undoable.first
    (misses_lit_of_head rfl h ha).seqRight.fails.seqLeft.undoable).named .string true

/-- A bracket, a brace or a quote starts no number. -/
theorem misses_number {c : Char} {r : List Char} (h : after input i = c :: r) (hc : c = '[' ∨ c = '{' ∨ c = '"') :
    Misses number input i := by
  have hne : ∀ d : Char, (d = '[' ∨ d = '{' ∨ d = '"' → False) → c ≠ d := by
    rintro d hd rfl
    exact hd hc
  have hsign : Takes (first (first (lit "+") (lit "-")) (pure ())) input i i () :=
    ((misses_lit_of_head rfl h (hne _ (by decide))).first (misses_lit_of_head rfl h (hne _ (by decide)))).first_takes
      (takes_pure ())
  have hint : Misses decimalInteger input i := by
    unfold decimalInteger
    exact (misses_lit_of_head rfl h (hne _ (by decide))).first
      (misses_charWith_of_head h (by rcases hc with rfl | rfl | rfl <;> decide)).seqRight.fails.undoable
  have hhex : Misses (undoable (litFolded "0x" *> someChars (charWith isHexDigit))) input i :=
    (misses_litFolded (spells_head_eq_false fun d u hd => by
      rw [h] at hd
      obtain ⟨rfl, -⟩ := List.cons.inj hd
      rcases hc with rfl | rfl | rfl <;> decide)).seqRight.fails.undoable
  have hdec : Misses decimalLiteral input i := by
    unfold decimalLiteral
    exact hint.seqRight.seqRight.seqRight.fails.undoable.first
      ((misses_lit_of_head rfl h (hne _ (by decide))).seqRight.seqRight.fails.undoable.first
        hint.seqRight.fails.undoable)
  unfold number
  exact (hsign.seqRight_fails (hhex.first (hdec.first ((misses_lit_of_head rfl h (hne _ (by decide))).first
    (misses_lit_of_head rfl h (hne _ (by decide)))))).fails).undoable.seqRight.named .number false

/-- The digits of a number as they are written: the first is no zero unless the number is. -/
theorem toDigits_cases (m : Nat) :
    (m = 0 ∧ Nat.toDigits 10 m = ['0']) ∨
    (∃ d ds, Nat.toDigits 10 m = d :: ds ∧ ('1' ≤ d && d ≤ '9') = true) := by
  induction m using Nat.strong_induction_on with
  | _ m ih =>
    rcases Nat.eq_zero_or_pos m with rfl | hm
    · exact .inl ⟨rfl, by decide⟩
    refine .inr ?_
    rw [Nat.toDigits_eq_if (by decide)]
    split
    · next h10 =>
      have hfirst : ∀ k < 10, 0 < k → ('1' ≤ Nat.digitChar k && Nat.digitChar k ≤ '9') = true := by decide
      exact ⟨_, [], rfl, hfirst m h10 hm⟩
    · next h10 =>
      rcases ih (m / 10) (by omega) with ⟨h0, -⟩ | ⟨d, ds, hds, hd⟩
      · omega
      · exact ⟨d, ds ++ [Nat.digitChar (m % 10)], by rw [hds]; rfl, hd⟩

theorem isDigit_of_mem_toDigits {m : Nat} {d : Char} (h : d ∈ Nat.toDigits 10 m) : isDigit d = true := by
  obtain ⟨k, hk, rfl⟩ := Json.mem_toDigits h
  have hdigit : ∀ k < 10, isDigit (Nat.digitChar k) = true := by decide
  exact hdigit k hk

/-- The decimal digits of a number, followed by what may follow a value, are read as a decimal
integer. -/
theorem takes_decimalInteger (m : Nat) {r : List Char} (h : after input i = Nat.toDigits 10 m ++ r)
    (hr : ValueEnd r) : Takes decimalInteger input i (i + (Nat.toDigits 10 m).length) () := by
  unfold decimalInteger
  rcases toDigits_cases m with ⟨-, h0⟩ | ⟨d, ds, hds, hd⟩
  · rw [h0] at h ⊢
    exact (takes_lit (show after input i = "0".toList ++ r from h)).first
  · rw [hds] at h ⊢
    have hdigits : ∀ c ∈ ds, isDigit c = true := fun c hc =>
      isDigit_of_mem_toDigits (show c ∈ Nat.toDigits 10 m by rw [hds]; exact List.mem_cons_of_mem _ hc)
    have hzero : d ≠ '0' := by
      rintro rfl
      cases hd
    have hpos : i + (d :: ds).length = i + 1 + ds.length := by
      simp only [List.length_cons]
      omega
    rw [hpos]
    exact (misses_lit_of_head rfl h hzero).first_takes ((takes_charWith h hd).seqRight
      (takes_manyChars_charWith (after_append (w := [d]) h) hdigits (hr.not_digit _ rfl rfl))).undoable

/-- What may follow a value starts no exponent. -/
theorem misses_exponentPart {r : List Char} (h : after input i = r) (hr : ValueEnd r) :
    Misses exponentPart input i := by
  unfold exponentPart
  refine (misses_litFolded (spells_head_eq_false fun c u hc => ?_)).seqRight.seqRight.fails.undoable
  rw [h] at hc
  rcases hr c u hc with rfl | rfl <;> decide

/-- The decimal digits of a number are read as a decimal literal by its last alternative, and by
nothing that reads hexadecimal. -/
theorem takes_digits (m : Nat) {r : List Char} (h : after input i = Nat.toDigits 10 m ++ r) (hr : ValueEnd r) :
    Takes (first (undoable (litFolded "0x" *> someChars (charWith isHexDigit)))
      (first decimalLiteral (first (lit "Infinity") (lit "NaN")))) input i (i + (Nat.toDigits 10 m).length) () := by
  have hint := takes_decimalInteger m h hr
  have hend := after_append h
  have hdot : Misses (lit ".") input (i + (Nat.toDigits 10 m).length) :=
    misses_lit_head rfl fun c u hc => by
      rw [hend] at hc
      rcases hr c u hc with rfl | rfl <;> decide
  have hfirst : ∀ c u, after input i = c :: u → isDigit c = true := by
    intro c u hc
    rcases toDigits_cases m with ⟨-, h0⟩ | ⟨d, ds, hds, -⟩
    · rw [h, h0] at hc
      obtain ⟨rfl, -⟩ := List.cons.inj hc
      rfl
    · rw [h, hds] at hc
      obtain ⟨rfl, -⟩ := List.cons.inj hc
      exact isDigit_of_mem_toDigits (by rw [hds]; exact List.mem_cons_self)
  -- `0x` needs an `x` second, and a digit is never one; a lone `0` is followed by a comma, a line
  -- break or nothing
  have hhex : Misses (undoable (litFolded "0x" *> someChars (charWith isHexDigit))) input i := by
    refine (misses_litFolded ?_).seqRight.fails.undoable
    rcases toDigits_cases m with ⟨-, h0⟩ | ⟨d, ds, hds, hd⟩
    · have hend' : after input (i + 1) = r := by rw [← hend, h0]; rfl
      refine spells_second_eq_false fun c u hc => ?_
      rw [hend'] at hc
      rcases hr c u hc with rfl | rfl <;> decide
    · refine spells_head_eq_false fun c u hc => ?_
      rw [h, hds] at hc
      obtain ⟨rfl, -⟩ := List.cons.inj hc
      have hzero : d ≠ '0' := by
        rintro rfl
        cases hd
      have hlow : d.toLower = d :=
        toLower_eq_self (by have := isDigit_iff.1 (isDigit_of_mem_toDigits (m := m) (by rw [hds]; exact List.mem_cons_self)); omega)
      show (if true then d.toLower == ('0' : Char).toLower else d == '0') = false
      simp [hlow, hzero]
  have hdec : Takes decimalLiteral input i (i + (Nat.toDigits 10 m).length) () := by
    unfold decimalLiteral
    exact (hint.seqRight_fails hdot.fails).seqRight.seqRight.undoable.first_takes
      ((misses_lit_head rfl fun c u hc => ne_of_isDigit (hfirst c u hc) rfl).seqRight.seqRight.fails.undoable.first_takes
        (hint.seqRight ((misses_exponentPart hend hr).first_takes (takes_pure ()))).undoable)
  exact hhex.first_takes hdec.first

/-- An integer, as it is written, is read as one number node spanning its text. -/
theorem takes_number_int (n : Int) {r : List Char} (h : after input i = (toString n).toList ++ r)
    (hr : ValueEnd r) :
    Takes number input i (i + (toString n).toList.length) [Node.mk .number i (i + (toString n).toList.length) []] := by
  unfold number
  cases n with
  | ofNat m =>
    have h' : after input i = Nat.toDigits 10 m ++ r := by rw [h, ← Nat.toList_repr]; rfl
    have hlen : (toString (Int.ofNat m)).toList.length = (Nat.toDigits 10 m).length := by
      rw [← Nat.toList_repr]
      rfl
    have hhead : ∀ c u, after input i = c :: u → isDigit c = true := by
      intro c u hc
      rcases toDigits_cases m with ⟨-, h0⟩ | ⟨d, ds, hds, -⟩
      · rw [h', h0] at hc
        obtain ⟨rfl, -⟩ := List.cons.inj hc
        rfl
      · rw [h', hds] at hc
        obtain ⟨rfl, -⟩ := List.cons.inj hc
        exact isDigit_of_mem_toDigits (by rw [hds]; exact List.mem_cons_self)
    have hsign : Takes (first (first (lit "+") (lit "-")) (pure ())) input i i () :=
      ((misses_lit_head rfl fun c u hc => ne_of_isDigit (hhead c u hc) rfl).first
        (misses_lit_head rfl fun c u hc => ne_of_isDigit (hhead c u hc) rfl)).first_takes (takes_pure ())
    rw [hlen]
    exact ((hsign.seqRight (takes_digits m h' hr)).undoable.seqRight (takes_pure [])).named .number false
  | negSucc k =>
    have htext : toString (Int.negSucc k) = "-" ++ (k + 1).repr := rfl
    have h' : after input i = "-".toList ++ (Nat.toDigits 10 (k + 1) ++ r) := by
      rw [h, htext, String.toList_append, List.append_assoc, Nat.toList_repr]
    have hlen : (toString (Int.negSucc k)).toList.length = 1 + (Nat.toDigits 10 (k + 1)).length := by
      rw [htext, String.toList_append, List.length_append, Nat.toList_repr]
      rfl
    have hsign : Takes (first (first (lit "+") (lit "-")) (pure ())) input i (i + 1) () :=
      ((misses_lit_head rfl fun c u hc => by rw [h'] at hc; obtain ⟨rfl, -⟩ := List.cons.inj hc; decide).first_takes
        (takes_lit h')).first
    rw [hlen, ← Nat.add_assoc]
    exact ((hsign.seqRight (takes_digits (k + 1) (after_append h') hr)).undoable.seqRight (takes_pure [])).named
      .number false

/-! ## Parse trees that stand for values -/

mutual

/-- A parse node stands for a value: it has the rule of the value's kind, and its text, its parts
or its children read back as the value. -/
inductive Stands (input : Array Char) : Node → Json → Prop where
  | null {i j : Nat} : Stands input (.mk .null i j []) .null
  | bool {i j : Nat} {b : Bool} (h : (Node.mk .boolean i j []).text input = if b then "true" else "false") :
      Stands input (.mk .boolean i j []) (.bool b)
  | int {i j : Nat} {n : Int} (h : (Node.mk .number i j []).text input = toString n) :
      Stands input (.mk .number i j []) (.int n)
  | str {i j : Nat} {parts : List Node} {s : String} (h : partsText input parts = .ok s) :
      Stands input (.mk .string i j parts) (.str s)
  | arr {i j : Nat} {ns : List Node} {xs : List Json} (h : StandAll input ns xs) :
      Stands input (.mk .array i j ns) (.arr xs)
  | obj {i j : Nat} {ns : List Node} {fs : List (String × Json)} (h : MembersStand input ns fs) :
      Stands input (.mk .object i j ns) (.obj fs)

/-- Nodes stand for values, one for one. -/
inductive StandAll (input : Array Char) : List Node → List Json → Prop where
  | nil : StandAll input [] []
  | cons {n : Node} {x : Json} {ns : List Node} {xs : List Json} (h : Stands input n x)
      (t : StandAll input ns xs) : StandAll input (n :: ns) (x :: xs)

/-- Nodes stand for the members of an object: a string node for each key, then a node for its
value. -/
inductive MembersStand (input : Array Char) : List Node → List (String × Json) → Prop where
  | nil : MembersStand input [] []
  | cons {i j : Nat} {parts : List Node} {key : String} {v : Node} {x : Json} {ns : List Node}
      {fs : List (String × Json)} (hk : partsText input parts = .ok key) (hv : Stands input v x)
      (t : MembersStand input ns fs) : MembersStand input (.mk .string i j parts :: v :: ns) ((key, x) :: fs)

end

/-- The nodes an array item is read as: one node that stands for it. -/
def ItemStands (input : Array Char) (x : Json) (ns : List Node) : Prop :=
  ∃ n, ns = [n] ∧ Stands input n x

/-- The nodes an object member is read as: a string node for the key, then a node that stands
for the value. -/
def MemberStands (input : Array Char) (m : String × Json) (ns : List Node) : Prop :=
  ∃ i j parts v, ns = [.mk .string i j parts, v] ∧ partsText input parts = .ok m.1 ∧ Stands input v m.2

theorem standAll_flatten {xs : List Json} {nss : List (List Node)}
    (h : List.Forall₂ (ItemStands input) xs nss) : StandAll input nss.flatten xs := by
  induction h with
  | nil => exact .nil
  | cons hx _ ih =>
    obtain ⟨n, rfl, hn⟩ := hx
    exact .cons hn ih

theorem membersStand_flatten {fs : List (String × Json)} {nss : List (List Node)}
    (h : List.Forall₂ (MemberStands input) fs nss) : MembersStand input nss.flatten fs := by
  induction h with
  | nil => exact .nil
  | cons hm _ ih =>
    obtain ⟨i, j, parts, v, rfl, hk, hv⟩ := hm
    exact .cons hk hv ih

/-- The characters a value's pretty text may start with. -/
def ValueStart (c : Char) : Prop :=
  c = 'n' ∨ c = 't' ∨ c = 'f' ∨ c = '"' ∨ c = '-' ∨ isDigit c = true ∨ c = '[' ∨ c = '\x7b'

theorem valueStart_quote : ValueStart '"' := .inr (.inr (.inr (.inl rfl)))

theorem ValueStart.gapEnd {c : Char} (hc : ValueStart c) (t : List Char) : GapEnd (c :: t) := by
  rcases hc with rfl | rfl | rfl | rfl | rfl | hd | rfl | rfl
  · exact gapEnd_cons (by decide) (by decide) (by decide)
  · exact gapEnd_cons (by decide) (by decide) (by decide)
  · exact gapEnd_cons (by decide) (by decide) (by decide)
  · exact gapEnd_cons (by decide) (by decide) (by decide)
  · exact gapEnd_cons (by decide) (by decide) (by decide)
  · have := isDigit_iff.1 hd
    exact gapEnd_cons (by omega) (by omega) (ne_of_isDigit hd rfl)
  · exact gapEnd_cons (by decide) (by decide) (by decide)
  · exact gapEnd_cons (by decide) (by decide) (by decide)

/-- No value starts with a closing bracket or brace. -/
theorem ValueStart.ne_close {c : Char} (hc : ValueStart c) : c ≠ ']' ∧ c ≠ '\x7d' := by
  rcases hc with rfl | rfl | rfl | rfl | rfl | hd | rfl | rfl
  · exact ⟨by decide, by decide⟩
  · exact ⟨by decide, by decide⟩
  · exact ⟨by decide, by decide⟩
  · exact ⟨by decide, by decide⟩
  · exact ⟨by decide, by decide⟩
  · exact ⟨ne_of_isDigit hd rfl, ne_of_isDigit hd rfl⟩
  · exact ⟨by decide, by decide⟩
  · exact ⟨by decide, by decide⟩

/-- An integer is written with a minus sign or a digit first. -/
theorem toString_int_head (n : Int) : ∃ c t, (toString n).toList = c :: t ∧ (c = '-' ∨ isDigit c = true) := by
  cases n with
  | ofNat m =>
    rcases toDigits_cases m with ⟨-, h0⟩ | ⟨d, ds, hds, -⟩
    · refine ⟨'0', [], ?_, .inr rfl⟩
      show m.repr.toList = _
      rw [Nat.toList_repr, h0]
    · refine ⟨d, ds, ?_, .inr ?_⟩
      · show m.repr.toList = _
        rw [Nat.toList_repr, hds]
      · exact isDigit_of_mem_toDigits (m := m) (by rw [hds]; exact List.mem_cons_self)
  | negSucc k =>
    refine ⟨'-', (k + 1).repr.toList, ?_, .inl rfl⟩
    show ("-" ++ (k + 1).repr).toList = _
    rw [String.toList_append]
    rfl

theorem valueStart_pretty {v : Json} (hv : Json.Relaxable v) (L : Nat) :
    ∃ c t, (Json.pretty L v).toList = c :: t ∧ ValueStart c := by
  cases hv with
  | null => exact ⟨'n', ['u', 'l', 'l'], by simp [Json.pretty, Json.compactScalar], .inl rfl⟩
  | bool b =>
    cases b with
    | false => exact ⟨'f', ['a', 'l', 's', 'e'], by simp [Json.pretty, Json.compactScalar], .inr (.inr (.inl rfl))⟩
    | true => exact ⟨'t', ['r', 'u', 'e'], by simp [Json.pretty, Json.compactScalar], .inr (.inl rfl)⟩
  | int n =>
    obtain ⟨c, t, hct, hc⟩ := toString_int_head n
    refine ⟨c, t, hct, ?_⟩
    rcases hc with rfl | hc
    · exact .inr (.inr (.inr (.inr (.inl rfl))))
    · exact .inr (.inr (.inr (.inr (.inr (.inl hc)))))
  | str _ => exact ⟨'"', _, toList_quote _, .inr (.inr (.inr (.inl rfl)))⟩
  | @arr xs _ =>
    obtain ⟨t, ht⟩ := Json.toList_pretty_arr_head L xs
    exact ⟨'[', t, ht, .inr (.inr (.inr (.inr (.inr (.inr (.inl rfl))))))⟩
  | @obj fs _ _ =>
    obtain ⟨t, ht⟩ := Json.toList_pretty_obj_head L fs
    exact ⟨'\x7b', t, ht, .inr (.inr (.inr (.inr (.inr (.inr (.inr rfl))))))⟩

/-- The value is read back from its pretty text at any level, with any fuel past the text's
length, wherever the text stands before what may follow a value. -/
def ReadsBack (input : Array Char) (v : Json) : Prop :=
  ∀ (level fuel i : Nat) (r : List Char), (Json.pretty level v).toList.length < fuel →
    after input i = (Json.pretty level v).toList ++ r → ValueEnd r →
    ∃ n, Takes (value fuel) input i (i + (Json.pretty level v).toList.length) [n] ∧ Stands input n v

/-! ## Items of containers

Both containers read their first item on its own and the others through `moreItems`, each after
a comma; the closing bracket or brace ends the items after a line break and the indentation. The
lemmas of this section are stated for any item parser that reads each item's text. -/

section Items

variable {α : Type}

/-- The item parser reads each of the items from its text `T y`, before what may follow a value,
as nodes that `G` relates to the item; and each text starts with what may follow a gap. -/
def ReadsItems (input : Array Char) (item : Nodes) (T : α → List Char) (G : α → List Node → Prop)
    (ys : List α) : Prop :=
  ∀ y ∈ ys, (∀ r, GapEnd (T y ++ r)) ∧ ∀ p r, after input p = T y ++ r → ValueEnd r →
    ∃ ns, Takes item input p (p + (T y).length) ns ∧ G y ns

/-- The text of an item after the first: a comma, a line break, the indentation, the item. -/
def laterText (T : α → List Char) (k : Nat) (y : α) : List Char := ',' :: '\n' :: List.replicate k ' ' ++ T y

theorem length_laterText (T : α → List Char) (k : Nat) (y : α) :
    (laterText T k y).length = k + 2 + (T y).length := by
  simp only [laterText, List.length_cons, List.length_append, List.length_replicate]

theorem valueEnd_break (t : List Char) : ValueEnd ('\n' :: t) := fun _ _ h => .inr (List.cons.inj h).1.symm

theorem valueEnd_laterTexts (T : α → List Char) (k : Nat) (ys : List α) {t : List Char} (ht : ValueEnd t) :
    ValueEnd (ys.flatMap (laterText T k) ++ t) := by
  intro c u h
  cases ys with
  | nil => exact ht c u h
  | cons y ys =>
    obtain ⟨rfl, -⟩ := List.cons.inj h
    exact .inl rfl

/-- A line break and the indentation after it are blank. -/
theorem isBlankChar_of_mem_break {k : Nat} {c : Char} (hc : c ∈ '\n' :: List.replicate k ' ') :
    isBlankChar c = true := by
  rcases List.mem_cons.1 hc with rfl | hc
  · exact isBlankChar_newline
  · rw [List.eq_of_mem_replicate hc]
    exact isBlankChar_space

theorem takes_gap_break (k : Nat) {r : List Char} (h : after input i = '\n' :: List.replicate k ' ' ++ r)
    (hr : GapEnd r) : Takes gap input i (i + (k + 1)) () := by
  have htake := takes_gap (show after input i = ('\n' :: List.replicate k ' ') ++ r from h)
    (fun _ => isBlankChar_of_mem_break) hr
  rwa [List.length_cons, List.length_replicate] at htake

theorem gapEnd_close {cl : Char} (hcl : cl = ']' ∨ cl = '\x7d') (r : List Char) : GapEnd (cl :: r) := by
  rcases hcl with rfl | rfl <;> exact gapEnd_cons (by decide) (by decide) (by decide)

theorem gapEnd_comma (r : List Char) : GapEnd (',' :: r) := gapEnd_cons (by decide) (by decide) (by decide)

/-- The opening of a container that is not empty: its bracket, then a line break and the
indentation of its first item. The item starts a value, so the gap stops there and the closing
bracket is not found. -/
theorem takes_opening {o close : String} {c cl : Char} {k : Nat} {w t r ds : List Char}
    (ho : o.toList.length = 1) (hclose : close.toList = cl :: ds) (hw : w = c :: t) (hc : ValueStart c)
    (hcl : c ≠ cl) (h : after input i = o.toList ++ ('\n' :: List.replicate k ' ' ++ (w ++ r))) :
    Takes (lit o) input i (i + 1) () ∧ Takes gap input (i + 1) (i + 1 + (k + 1)) () ∧
      Misses (lit close) input (i + 1 + (k + 1)) ∧ after input (i + 1 + (k + 1)) = w ++ r := by
  have hbreak : after input (i + 1) = '\n' :: List.replicate k ' ' ++ (w ++ r) := ho ▸ after_append h
  have hfirst : after input (i + 1 + (k + 1)) = w ++ r := by
    have := after_append hbreak
    rwa [List.length_cons, List.length_replicate] at this
  have hlit : Takes (lit o) input i (i + o.length) () := takes_lit h
  rw [← String.length_toList, ho] at hlit
  have hstart : w ++ r = c :: (t ++ r) := by rw [hw, List.cons_append]
  exact ⟨hlit, takes_gap_break k hbreak (hstart ▸ hc.gapEnd _),
    misses_lit_of_head hclose (hstart ▸ hfirst) hcl, hfirst⟩

/-- The end of a list: blanks, no comma, and the closing character. -/
theorem takes_listEnd {close : String} {cl : Char} (hclose : close.toList = [cl]) (hcl : cl = ']' ∨ cl = '\x7d')
    {bs r : List Char} (hbs : ∀ c ∈ bs, isBlankChar c = true) (h : after input i = bs ++ cl :: r) :
    Takes (listEnd close) input i (i + bs.length + 1) () := by
  have hq : after input (i + bs.length) = cl :: r := after_append h
  have hcomma : Misses (lit ",") input (i + bs.length) :=
    misses_lit_of_head rfl hq (by rcases hcl with rfl | rfl <;> decide)
  have hlen : i + bs.length + 1 = i + bs.length + close.length := by
    rw [← String.length_toList, hclose]
    rfl
  rw [hlen]
  unfold listEnd
  exact (takes_gap h hbs (gapEnd_close hcl r)).bind (hcomma.seqRight.optional.bind
    ((takes_gap_nil hq (gapEnd_close hcl r)).bind (takes_lit (by rw [hclose]; exact hq))))

/-- At the closing character there are no more items. -/
theorem takes_moreItems_close (item : Nodes) {cl : Char} (hcl : cl = ']' ∨ cl = '\x7d') {r : List Char}
    (h : after input i = cl :: r) : Takes (moreItems item) input i i [] := by
  unfold moreItems
  exact (misses_lit_of_head rfl h (by rcases hcl with rfl | rfl <;> decide)).seqRight.seqRight.fails.undoable.bind
    |>.fails.undoable.optional

section
variable {item : Nodes} {T : α → List Char} {G : α → List Node → Prop}

/-- An item after the first is read after its comma, line break and indentation. -/
theorem takes_laterItem {y : α} (hT : ∀ r, GapEnd (T y ++ r))
    (hy : ∀ p r, after input p = T y ++ r → ValueEnd r → ∃ ns, Takes item input p (p + (T y).length) ns ∧ G y ns)
    (k : Nat) {r : List Char} (h : after input i = laterText T k y ++ r) (hr : ValueEnd r) :
    ∃ ns, Takes (undoable (lit "," *> gap *> item)) input i (i + (laterText T k y).length) ns ∧ G y ns := by
  have hcomma : after input i = ",".toList ++ ('\n' :: List.replicate k ' ' ++ (T y ++ r)) := by
    rw [h, laterText]
    simp
  have hbreak := after_append hcomma
  have hitem := after_append hbreak
  obtain ⟨ns, htake, hG⟩ := hy _ r hitem hr
  refine ⟨ns, ?_, hG⟩
  have hpos : i + (laterText T k y).length = i + ",".length + ('\n' :: List.replicate k ' ').length + (T y).length := by
    rw [length_laterText]
    simp only [List.length_cons, List.length_replicate]
    have : ",".length = 1 := rfl
    omega
  rw [hpos]
  exact (((takes_lit hcomma).seqRight (takes_gap hbreak (fun _ => isBlankChar_of_mem_break) (hT r))).seqRight
    htake).undoable

/-- At the line break before the closing character the loop of `moreItems` stops: the gap takes
the line break and the indentation, and no comma follows. -/
theorem misses_laterItem_close (k' : Nat) {cl : Char} (hcl : cl = ']' ∨ cl = '\x7d') {r : List Char}
    (h : after input i = '\n' :: (List.replicate k' ' ' ++ cl :: r)) :
    Misses (undoable (gap *> undoable (lit "," *> gap *> item))) input i := by
  have hgap := takes_gap_break k' h (gapEnd_close hcl r)
  have hclose : after input (i + (k' + 1)) = cl :: r := by
    have := after_append (show after input i = ('\n' :: List.replicate k' ' ') ++ cl :: r from h)
    rwa [List.length_cons, List.length_replicate] at this
  have hcomma : Misses (undoable (lit "," *> gap *> item)) input (i + (k' + 1)) :=
    (misses_lit_of_head rfl hclose (by rcases hcl with rfl | rfl <;> decide)).seqRight.seqRight.fails.undoable
  exact (hgap.seqRight_fails hcomma.fails).undoable

/-- The items after the first, up to where the loop of `moreItems` stops, are one finished run of
it. -/
theorem runs_laterItems (k : Nat) {rest : List Char} (hrest : ValueEnd rest)
    (hstop : ∀ q, after input q = rest → Misses (undoable (gap *> undoable (lit "," *> gap *> item))) input q) :
    ∀ (ys : List α) {p : Nat}, ReadsItems input item T G ys →
    after input p = ys.flatMap (laterText T k) ++ rest →
    ∃ nss, List.Forall₂ G ys nss ∧
      Runs (undoable (gap *> undoable (lit "," *> gap *> item))) input p (p + (ys.flatMap (laterText T k)).length)
        nss.flatten
  | [], p, _, h => ⟨[], .nil, Runs.stop (hstop p h)⟩
  | y :: ys, p, hys, h => by
    obtain ⟨hT, hy⟩ := hys y List.mem_cons_self
    rw [List.flatMap_cons, List.append_assoc] at h
    obtain ⟨ns, hstep, hG⟩ := takes_laterItem hT hy k h (valueEnd_laterTexts T k ys hrest)
    obtain ⟨nss, hnss, hrun⟩ :=
      runs_laterItems k hrest hstop ys (fun z hz => hys z (List.mem_cons_of_mem _ hz)) (after_append h)
    refine ⟨ns :: nss, .cons hG hnss, ?_⟩
    rw [List.flatMap_cons, List.length_append, ← Nat.add_assoc]
    have hgap := takes_gap_nil h (by rw [laterText]; exact gapEnd_comma _)
    exact Runs.step (hgap.seqRight hstep).undoable (by rw [length_laterText]; omega) hrun

/-- What follows the first item of a container: the other items, the line break, the
indentation and the closing character. -/
theorem takes_itemsTail {ys : List α} (hys : ReadsItems input item T G ys) (k k' : Nat) (close : String)
    {cl : Char} (hclose : close.toList = [cl]) (hcl : cl = ']' ∨ cl = '\x7d') (out : List Node → List Node)
    {r : List Char} (h : after input i = ys.flatMap (laterText T k) ++ '\n' :: (List.replicate k' ' ' ++ cl :: r)) :
    ∃ nss, List.Forall₂ G ys nss ∧
      Takes (gap >>= fun _ => moreItems item >>= fun rest => listEnd close >>= fun _ => pure (out rest)) input i
        (i + (ys.flatMap (laterText T k)).length + (k' + 1) + 1) (out nss.flatten) := by
  have hblank : ∀ c ∈ '\n' :: List.replicate k' ' ', isBlankChar c = true := fun _ => isBlankChar_of_mem_break
  cases ys with
  | nil =>
    rw [List.flatMap_nil, List.nil_append] at h
    have hclosing : after input (i + (k' + 1)) = cl :: r := by
      have := after_append (show after input i = ('\n' :: List.replicate k' ' ') ++ cl :: r from h)
      rwa [List.length_cons, List.length_replicate] at this
    refine ⟨[], .nil, ?_⟩
    rw [List.flatMap_nil, List.length_nil, Nat.add_zero]
    exact (takes_gap_break k' h (gapEnd_close hcl r)).bind ((takes_moreItems_close item hcl hclosing).bind
      ((takes_listEnd hclose hcl (by simp) (show after input _ = ([] : List Char) ++ cl :: r from hclosing)).bind (takes_pure _)))
  | cons y ys =>
    obtain ⟨hT, hy⟩ := hys y List.mem_cons_self
    have h' := h
    rw [List.flatMap_cons, List.append_assoc] at h'
    obtain ⟨ns, hfirst, hG⟩ := takes_laterItem hT hy k h' (valueEnd_laterTexts T k ys (valueEnd_break _))
    have hrest := after_append h'
    obtain ⟨nss, hnss, hrun⟩ := runs_laterItems k (valueEnd_break _) (fun _ hq => misses_laterItem_close k' hcl hq) ys
      (fun z hz => hys z (List.mem_cons_of_mem _ hz)) hrest
    have hend := after_append hrest
    have hmany := hrun.takes_many (by have := length_le_of_after hrest; omega)
    refine ⟨ns :: nss, .cons hG hnss, ?_⟩
    have hpos : i + ((y :: ys).flatMap (laterText T k)).length + (k' + 1) + 1 =
        i + (laterText T k y).length + (ys.flatMap (laterText T k)).length + ('\n' :: List.replicate k' ' ').length + 1 := by
      simp only [List.flatMap_cons, List.length_append, List.length_cons, List.length_replicate]
      omega
    rw [hpos]
    exact (takes_gap_nil h (by rw [List.flatMap_cons, laterText]; exact gapEnd_comma _)).bind
      ((hfirst.bind (hmany.bind (takes_pure (ns ++ nss.flatten)))).undoable.optional.bind
        ((takes_listEnd hclose hcl hblank hend).bind (takes_pure _)))

end

end Items

/-! ## Containers -/

theorem length_le_flatMap {α β : Type} {f : α → List β} {l : List α} {a : α} (h : a ∈ l) :
    (f a).length ≤ (l.flatMap f).length := by
  rw [List.length_flatMap]
  exact List.le_sum_of_mem (List.mem_map_of_mem h)

set_option maxRecDepth 8000 in
theorem letterTable_quote : ∀ r ∈ Text.letterTable.ranges.toList, 34 < r.1 ∨ r.2 < 34 := by
  decide +kernel

/-- A quote starts no name, so keys written in quotes are read as strings. -/
theorem misses_identifier {r : List Char} (h : after input i = '"' :: r) : Misses identifier input i := by
  have hletter : isNameLetter '"' = false := Text.RangeTable.contains_eq_false letterTable_quote
  have hstart : Misses nameStart input i := by
    unfold nameStart
    exact ((misses_charWith_of_head h hletter).first ((misses_lit_of_head rfl h (by decide)).first
      (misses_lit_of_head rfl h (by decide)))).fails.ahead.seqRight.fails.undoable.first
      (misses_lit_of_head rfl h (by decide)).seqRight.fails.undoable
  unfold identifier
  exact hstart.bind.fails.undoable.named .identifier true

/-- The text of an array as the pretty writer lays it out: the first item, the later ones, and
the closing bracket on a line of its own. -/
theorem toList_pretty_arr (L : Nat) (x : Json) (xs : List Json) (r : List Char) :
    (Json.pretty L (.arr (x :: xs))).toList ++ r = "[".toList ++ ('\n' :: List.replicate (2 * (L + 1)) ' ' ++
      ((Json.pretty (L + 1) x).toList ++ (xs.flatMap (laterText (fun y => (Json.pretty (L + 1) y).toList) (2 * (L + 1))) ++
        '\n' :: (List.replicate (2 * L) ' ' ++ ']' :: r)))) := by
  rw [Json.toList_pretty_arr_cons, Json.toList_prettyItems_cons, Json.toList_indent, Json.toList_indent]
  unfold laterText
  simp

/-- The text of a member: its key in quotes, a colon, a space and its value. -/
def memberText (level : Nat) (m : String × Json) : List Char :=
  (Json.quote m.1).toList ++ ':' :: ' ' :: (Json.pretty level m.2).toList

/-- A member's text starts with the quote of its key. -/
theorem memberText_eq (level : Nat) (m : String × Json) :
    memberText level m = '"' :: ((Json.quote m.1).toList.drop 1 ++ ':' :: ' ' :: (Json.pretty level m.2).toList) := by
  rw [memberText, toList_quote]
  simp

/-- The text of an object as the pretty writer lays it out. -/
theorem toList_pretty_obj (L : Nat) (m : String × Json) (fs : List (String × Json)) (r : List Char) :
    (Json.pretty L (.obj (m :: fs))).toList ++ r = "\x7b".toList ++ ('\n' :: List.replicate (2 * (L + 1)) ' ' ++
      (memberText (L + 1) m ++ (fs.flatMap (laterText (memberText (L + 1)) (2 * (L + 1))) ++
        '\n' :: (List.replicate (2 * L) ' ' ++ '\x7d' :: r)))) := by
  rw [Json.toList_pretty_obj_cons, Json.toList_prettyFields_cons, Json.toList_indent, Json.toList_indent]
  unfold laterText memberText
  simp

theorem length_memberText (level : Nat) (m : String × Json) :
    (memberText level m).length = (Json.quote m.1).toList.length + (Json.pretty level m.2).toList.length + 2 := by
  simp only [memberText, List.length_append, List.length_cons]
  omega

/-- The brackets, line breaks and indentation of a container take four characters more than its
items and the indentation before each. -/
theorem length_pretty_arr (L : Nat) (x : Json) (xs : List Json) :
    (Json.pretty L (.arr (x :: xs))).toList.length = 1 + (2 * (L + 1) + 1) + (Json.pretty (L + 1) x).toList.length +
      (xs.flatMap (laterText (fun y => (Json.pretty (L + 1) y).toList) (2 * (L + 1)))).length + (2 * L + 1) + 1 := by
  have hlen := congrArg List.length (toList_pretty_arr L x xs [])
  simp only [List.append_nil, List.length_append, List.length_cons, List.length_replicate,
    List.length_nil] at hlen
  have hone : "[".toList.length = 1 := rfl
  omega

theorem length_pretty_obj (L : Nat) (m : String × Json) (fs : List (String × Json)) :
    (Json.pretty L (.obj (m :: fs))).toList.length = 1 + (2 * (L + 1) + 1) + (memberText (L + 1) m).length +
      (fs.flatMap (laterText (memberText (L + 1)) (2 * (L + 1)))).length + (2 * L + 1) + 1 := by
  have hlen := congrArg List.length (toList_pretty_obj L m fs [])
  simp only [List.append_nil, List.length_append, List.length_cons, List.length_replicate,
    List.length_nil] at hlen
  have hone : "\x7b".toList.length = 1 := rfl
  omega

/-- The fuel a container passes on: one step goes to the container, and what is left is more
than each item's text, since the brackets and the line breaks around the items take four
characters more. -/
theorem fuel_items {L fuel : Nat} {x : Json} {xs : List Json}
    (hfuel : (Json.pretty L (.arr (x :: xs))).toList.length ≤ fuel) :
    ∃ g, fuel = g + 1 ∧ ∀ y ∈ x :: xs, (Json.pretty (L + 1) y).toList.length < g := by
  rw [length_pretty_arr] at hfuel
  refine ⟨fuel - 1, by omega, fun y hy => ?_⟩
  rcases List.mem_cons.1 hy with rfl | hy
  · omega
  · have hlater := length_le_flatMap (f := laterText (fun y => (Json.pretty (L + 1) y).toList) (2 * (L + 1))) hy
    rw [length_laterText] at hlater
    omega

theorem fuel_members {L fuel : Nat} {m : String × Json} {fs : List (String × Json)}
    (hfuel : (Json.pretty L (.obj (m :: fs))).toList.length ≤ fuel) :
    ∃ g, fuel = g + 1 ∧ ∀ f ∈ m :: fs, (Json.pretty (L + 1) f.2).toList.length < g := by
  rw [length_pretty_obj, length_memberText] at hfuel
  refine ⟨fuel - 1, by omega, fun f hf => ?_⟩
  rcases List.mem_cons.1 hf with rfl | hf
  · omega
  · have hlater := length_le_flatMap (f := laterText (memberText (L + 1)) (2 * (L + 1))) hf
    rw [length_laterText, length_memberText] at hlater
    omega

/-- The items of an array that read back are read by `value`, with fuel past each of their texts. -/
theorem readsItems_values {xs : List Json} (hxs : ∀ x ∈ xs, Json.Relaxable x ∧ ReadsBack input x) (L fuel : Nat)
    (hfuel : ∀ x ∈ xs, (Json.pretty L x).toList.length < fuel) :
    ReadsItems input (value fuel) (fun x => (Json.pretty L x).toList) (ItemStands input) xs := by
  intro x hx
  obtain ⟨hrel, hback⟩ := hxs x hx
  refine ⟨fun r => ?_, fun p r h hr => ?_⟩
  · obtain ⟨c, t, ht, hc⟩ := valueStart_pretty hrel L
    show GapEnd ((Json.pretty L x).toList ++ r)
    rw [ht, List.cons_append]
    exact hc.gapEnd _
  · obtain ⟨n, htake, hn⟩ := hback L fuel p r (hfuel x hx) h hr
    exact ⟨[n], htake, n, rfl, hn⟩

/-- An array is read from its pretty text when each of its items is. -/
theorem takes_array {xs : List Json} (hxs : ∀ x ∈ xs, Json.Relaxable x ∧ ReadsBack input x) (level fuel : Nat)
    {r : List Char} (hfuel : (Json.pretty level (.arr xs)).toList.length ≤ fuel)
    (h : after input i = (Json.pretty level (.arr xs)).toList ++ r) :
    ∃ n, Takes (array fuel) input i (i + (Json.pretty level (.arr xs)).toList.length) [n] ∧ Stands input n (.arr xs) := by
  cases xs with
  | nil =>
    have htext : (Json.pretty level (.arr [])).toList = "[".toList ++ "]".toList := by simp [Json.pretty]
    rw [htext] at hfuel h ⊢
    obtain ⟨g, rfl⟩ : ∃ g, fuel = g + 1 := ⟨fuel - 1, by simp at hfuel; omega⟩
    rw [List.append_assoc] at h
    have hclose := after_append h
    rw [array]
    exact ⟨_, ((takes_lit h).bind ((takes_gap_nil hclose (gapEnd_close (.inl rfl) r)).bind
      ((takes_lit hclose).seqRight (takes_pure [])).first)).undoable.named .array true, .arr .nil⟩
  | cons x ys =>
    obtain ⟨g, rfl, hitemFuel⟩ := fuel_items hfuel
    rw [toList_pretty_arr] at h
    obtain ⟨hrel, hback⟩ := hxs x List.mem_cons_self
    obtain ⟨c, t, hct, hc⟩ := valueStart_pretty hrel (level + 1)
    obtain ⟨hopen, hgap, hno, hfirst⟩ := takes_opening rfl (show "]".toList = [']'] from rfl) hct hc hc.ne_close.1 h
    obtain ⟨nx, hx, hnx⟩ := hback (level + 1) g _ _ (hitemFuel x List.mem_cons_self) hfirst
      (valueEnd_laterTexts _ _ ys (valueEnd_break _))
    have hitems := readsItems_values (fun y hy => hxs y (List.mem_cons_of_mem _ hy)) (level + 1) g
      fun y hy => hitemFuel y (List.mem_cons_of_mem _ hy)
    obtain ⟨nss, hnss, htail⟩ := takes_itemsTail hitems (2 * (level + 1)) (2 * level) "]" rfl (.inl rfl)
      (fun rest => [nx] ++ rest) (after_append hfirst)
    have hpos : i + (Json.pretty level (.arr (x :: ys))).toList.length =
        i + 1 + (2 * (level + 1) + 1) + (Json.pretty (level + 1) x).toList.length +
          (ys.flatMap (laterText (fun y => (Json.pretty (level + 1) y).toList) (2 * (level + 1)))).length +
          (2 * level + 1) + 1 := by
      rw [length_pretty_arr]
      omega
    rw [hpos, array]
    exact ⟨_, (hopen.bind (hgap.bind (hno.seqRight.first_takes (hx.bind htail).undoable))).undoable.named
      .array true, .arr (.cons hnx (standAll_flatten hnss))⟩

/-- The key of a member, its colon and the space after it, up to the value: a string node for
the key, a gap, the colon and a gap. -/
theorem takes_memberKey {k : String} (hk : Json.NoLineSeparator k) {t : List Char}
    (h : after input i = (Json.quote k).toList ++ ':' :: ' ' :: t) (ht : GapEnd t) :
    ∃ parts, partsText input parts = .ok k ∧
      Takes (first identifier string) input i (i + (Json.quote k).toList.length)
        [.mk .string i (i + (Json.quote k).toList.length) parts] ∧
      Takes gap input (i + (Json.quote k).toList.length) (i + (Json.quote k).toList.length) () ∧
      Takes (lit ":") input (i + (Json.quote k).toList.length) (i + (Json.quote k).toList.length + 1) () ∧
      Takes gap input (i + (Json.quote k).toList.length + 1) (i + (Json.quote k).toList.length + 2) () ∧
      after input (i + (Json.quote k).toList.length + 2) = t := by
  obtain ⟨parts, hstr, hparts⟩ := takes_string hk h
  have hcolon := after_append h
  have hspace : after input (i + (Json.quote k).toList.length + 1) = [' '] ++ t := after_append (w := [':']) hcolon
  have hquote : after input i = '"' :: ((Json.quote k).toList.drop 1 ++ ':' :: ' ' :: t) := by
    rw [h, toList_quote]
    rfl
  -- the lengths of the one-character texts become numerals here: left to unification, they make
  -- it unfold the quoted key instead
  have hlit := takes_lit (show after input _ = ":".toList ++ _ from hcolon)
  rw [show ":".length = 1 from rfl] at hlit
  have hgap := takes_gap hspace (by simp [isBlankChar_space]) ht
  have hafter := after_append hspace
  rw [List.length_singleton] at hgap hafter
  exact ⟨parts, hparts, (misses_identifier hquote).first_takes hstr,
    takes_gap_nil hcolon (gapEnd_cons (by decide) (by decide) (by decide)), hlit, hgap, hafter⟩

/-- A member is read as the string node of its key and the node of its value; the member parser
then takes or fails as the parser after them does. -/
theorem takes_member {m : String × Json} (hkey : Json.NoLineSeparator m.1) (hrel : Json.Relaxable m.2)
    (hback : ReadsBack input m.2) (level fuel : Nat) (hfuel : (Json.pretty level m.2).toList.length < fuel)
    {r : List Char} (h : after input i = memberText level m ++ r) (hr : ValueEnd r) :
    ∃ nk nv, MemberStands input m [nk, nv] ∧
      (∀ {β : Type} (cont : List Node → List Node → Parse β) {q : Nat} {b : β},
        Takes (cont [nk] [nv]) input (i + (memberText level m).length) q b →
        Takes (first identifier string >>= fun k => gap >>= fun _ => lit ":" >>= fun _ => gap >>= fun _ =>
          value fuel >>= fun v => cont k v) input i q b) ∧
      ∀ {β : Type} (cont : List Node → List Node → Parse β),
        Fails (cont [nk] [nv]) input (i + (memberText level m).length) →
        Fails (first identifier string >>= fun k => gap >>= fun _ => lit ":" >>= fun _ => gap >>= fun _ =>
          value fuel >>= fun v => cont k v) input i := by
  obtain ⟨c, t, hct, hc⟩ := valueStart_pretty hrel level
  have h' : after input i = (Json.quote m.1).toList ++ ':' :: ' ' :: ((Json.pretty level m.2).toList ++ r) := by
    rw [h, memberText, List.append_assoc]
    rfl
  obtain ⟨parts, hparts, hkey', hgap₁, hcolon, hgap₂, hvalue⟩ :=
    takes_memberKey hkey h' (by rw [hct, List.cons_append]; exact hc.gapEnd _)
  obtain ⟨nv, hv, hnv⟩ := hback level fuel _ r hfuel hvalue hr
  have hpos : i + (memberText level m).length =
      i + (Json.quote m.1).toList.length + 2 + (Json.pretty level m.2).toList.length := by
    rw [length_memberText]
    omega
  refine ⟨.mk .string i (i + (Json.quote m.1).toList.length) parts, nv, ⟨i, _, parts, nv, rfl, hparts, hnv⟩,
    fun cont => ?_, fun cont => ?_⟩
  · intro q b hcont
    rw [hpos] at hcont
    exact hkey'.bind (hgap₁.bind (hcolon.bind (hgap₂.bind (hv.bind hcont))))
  · intro hcont
    rw [hpos] at hcont
    exact hkey'.bind_fails (hgap₁.bind_fails (hcolon.bind_fails (hgap₂.bind_fails (hv.bind_fails hcont))))

/-- The members of an object that read back are read by the member parser of `object`. -/
theorem readsItems_members {fs : List (String × Json)}
    (hfs : ∀ m ∈ fs, Json.NoLineSeparator m.1 ∧ Json.Relaxable m.2 ∧ ReadsBack input m.2) (L fuel : Nat)
    (hfuel : ∀ m ∈ fs, (Json.pretty L m.2).toList.length < fuel) :
    ReadsItems input (undoable (first identifier string >>= fun k => gap >>= fun _ => lit ":" >>= fun _ => gap >>= fun _ =>
        value fuel >>= fun v => pure (k ++ v))) (memberText L) (MemberStands input) fs := by
  intro m hm
  obtain ⟨hkey, hrel, hback⟩ := hfs m hm
  refine ⟨fun r => ?_, fun p r h hr => ?_⟩
  · rw [memberText, toList_quote, List.cons_append, List.cons_append]
    exact gapEnd_cons (by decide) (by decide) (by decide)
  · obtain ⟨nk, nv, hmem, hcont, -⟩ := takes_member hkey hrel hback L fuel (hfuel m hm) h hr
    exact ⟨[nk, nv], (hcont (fun k v => pure (k ++ v)) (takes_pure _)).undoable, hmem⟩

/-- An object is read from its pretty text when each of its values is, and its keys hold no line
separators. -/
theorem takes_object {fs : List (String × Json)}
    (hfs : ∀ m ∈ fs, Json.NoLineSeparator m.1 ∧ Json.Relaxable m.2 ∧ ReadsBack input m.2) (level fuel : Nat)
    {r : List Char} (hfuel : (Json.pretty level (.obj fs)).toList.length ≤ fuel)
    (h : after input i = (Json.pretty level (.obj fs)).toList ++ r) :
    ∃ n, Takes (object fuel) input i (i + (Json.pretty level (.obj fs)).toList.length) [n] ∧ Stands input n (.obj fs) := by
  cases fs with
  | nil =>
    have htext : (Json.pretty level (.obj [])).toList = "\x7b".toList ++ "\x7d".toList := by simp [Json.pretty]
    rw [htext] at hfuel h ⊢
    obtain ⟨g, rfl⟩ : ∃ g, fuel = g + 1 := ⟨fuel - 1, by simp at hfuel; omega⟩
    rw [List.append_assoc] at h
    have hclose := after_append h
    rw [object]
    exact ⟨_, ((takes_lit h).bind ((takes_gap_nil hclose (gapEnd_close (.inr rfl) r)).bind
      ((takes_lit hclose).seqRight (takes_pure [])).first)).undoable.named .object true, .obj .nil⟩
  | cons m gs =>
    obtain ⟨g, rfl, hmemberFuel⟩ := fuel_members hfuel
    rw [toList_pretty_obj] at h
    obtain ⟨hkey, hrel, hback⟩ := hfs m List.mem_cons_self
    obtain ⟨hopen, hgap, hno, hfirst⟩ := takes_opening rfl (show "\x7d".toList = ['\x7d'] from rfl)
      (memberText_eq _ m) valueStart_quote (by decide) h
    obtain ⟨nk, nv, hmem, hcont, -⟩ := takes_member hkey hrel hback (level + 1) g
      (hmemberFuel m List.mem_cons_self) hfirst (valueEnd_laterTexts _ _ gs (valueEnd_break _))
    have hitems := readsItems_members (fun f hf => hfs f (List.mem_cons_of_mem _ hf)) (level + 1) g
      fun f hf => hmemberFuel f (List.mem_cons_of_mem _ hf)
    obtain ⟨nss, hnss, htail⟩ := takes_itemsTail hitems (2 * (level + 1)) (2 * level) "\x7d" rfl (.inr rfl)
      (fun rest => [nk] ++ ([nv] ++ rest)) (after_append hfirst)
    obtain ⟨i', j', parts, v, hns, hk, hv⟩ := hmem
    obtain ⟨rfl, rfl⟩ : nk = .mk .string i' j' parts ∧ nv = v := by
      simp only [List.cons.injEq, and_true] at hns
      exact hns
    have hpos : i + (Json.pretty level (.obj (m :: gs))).toList.length =
        i + 1 + (2 * (level + 1) + 1) + (memberText (level + 1) m).length +
          (gs.flatMap (laterText (memberText (level + 1)) (2 * (level + 1)))).length + (2 * level + 1) + 1 := by
      rw [length_pretty_obj]
      omega
    rw [hpos, object]
    exact ⟨_, (hopen.bind (hgap.bind (hno.seqRight.first_takes (hcont _ htail).undoable))).undoable.named
      .object true, .obj (.cons hk hv (membersStand_flatten hnss))⟩

/-! ## Values and documents -/

theorem misses_object {f : Nat} {c : Char} {r : List Char} (h : after input i = c :: r) (hc : c ≠ '\x7b') :
    Misses (object f) input i := by
  cases f with
  | zero =>
    rw [object]
    exact misses_miss
  | succ g =>
    rw [object]
    exact (misses_lit_of_head rfl h hc).bind.fails.undoable.named .object true

theorem Takes.value_of_number {f : Nat} {c : Char} {r : List Char} {j : Nat} {ns : List Node}
    (h : after input i = c :: r) (hc : c ≠ 'n' ∧ c ≠ 't' ∧ c ≠ 'f' ∧ c ≠ '"' ∧ c ≠ '\'')
    (hn : Takes number input i j ns) : Takes (value (f + 1)) input i j ns := by
  rw [value]
  exact (misses_nullValue h hc.1).first_takes ((misses_boolean h hc.2.1 hc.2.2.1).first_takes
    ((misses_string h hc.2.2.2.1 hc.2.2.2.2).first_takes hn.first))

/-- Every value the relaxed syntax can hold is read back from its pretty text. -/
theorem readsBack {v : Json} (hv : Json.Relaxable v) : ReadsBack input v := by
  induction hv with
  | null =>
    intro level fuel i r hfuel h _
    obtain ⟨f, rfl⟩ : ∃ f, fuel = f + 1 := ⟨fuel - 1, by omega⟩
    have htext : (Json.pretty level .null).toList = "null".toList := by simp [Json.pretty, Json.compactScalar]
    rw [htext] at h ⊢
    rw [value]
    exact ⟨_, (takes_nullValue h).first, .null⟩
  | bool b =>
    intro level fuel i r hfuel h _
    obtain ⟨f, rfl⟩ : ∃ f, fuel = f + 1 := ⟨fuel - 1, by omega⟩
    have htext : (Json.pretty level (.bool b)).toList = (if b then "true" else "false").toList := rfl
    rw [htext] at h ⊢
    have hhead : ∃ c t, (if b then "true" else "false").toList = c :: t ∧ c ≠ 'n' := by
      cases b
      · exact ⟨'f', _, rfl, by decide⟩
      · exact ⟨'t', _, rfl, by decide⟩
    obtain ⟨c, t, hct, hc⟩ := hhead
    have hboolean := takes_boolean b h
    rw [String.length_toList]
    rw [hct, List.cons_append] at h
    rw [value]
    refine ⟨_, (misses_nullValue h hc).first_takes hboolean.first, .bool ?_⟩
    rw [← String.length_toList, text_of_after .boolean [] (by rw [h, ← List.cons_append, ← hct]), String.ofList_toList]
  | int n =>
    intro level fuel i r hfuel h hr
    obtain ⟨f, rfl⟩ : ∃ f, fuel = f + 1 := ⟨fuel - 1, by omega⟩
    have htext : (Json.pretty level (.int n)).toList = (toString n).toList := rfl
    rw [htext] at h ⊢
    obtain ⟨c, t, hct, hc⟩ := toString_int_head n
    have hne : c ≠ 'n' ∧ c ≠ 't' ∧ c ≠ 'f' ∧ c ≠ '"' ∧ c ≠ '\'' := by
      rcases hc with rfl | hc
      · exact ⟨by decide, by decide, by decide, by decide, by decide⟩
      · exact ⟨ne_of_isDigit hc rfl, ne_of_isDigit hc rfl, ne_of_isDigit hc rfl, ne_of_isDigit hc rfl,
          ne_of_isDigit hc rfl⟩
    refine ⟨_, (takes_number_int n h hr).value_of_number (by rw [h, hct, List.cons_append]) hne, .int ?_⟩
    rw [text_of_after .number [] h, String.ofList_toList]
  | @str s hs =>
    intro level fuel i r hfuel h _
    obtain ⟨f, rfl⟩ : ∃ f, fuel = f + 1 := ⟨fuel - 1, by omega⟩
    have htext : (Json.pretty level (.str s)).toList = (Json.quote s).toList := rfl
    rw [htext] at h ⊢
    obtain ⟨parts, hstr, hparts⟩ := takes_string hs h
    have hq : after input i = '"' :: ((s.toList.flatMap fun c => (Json.escapeChar c).toList) ++ ['"'] ++ r) := by
      rw [h, toList_quote]
      rfl
    rw [value]
    exact ⟨_, (misses_nullValue hq (by decide)).first_takes ((misses_boolean hq (by decide) (by decide)).first_takes
      hstr.first), .str hparts⟩
  | @arr xs hxs ih =>
    intro level fuel i r hfuel h _
    obtain ⟨f, rfl⟩ : ∃ f, fuel = f + 1 := ⟨fuel - 1, by omega⟩
    obtain ⟨t, ht⟩ := Json.toList_pretty_arr_head level xs
    have hb : after input i = '[' :: (t ++ r) := by rw [h, ht, List.cons_append]
    obtain ⟨n, harr, hn⟩ := takes_array (fun x hx => ⟨hxs x hx, ih x hx⟩) level f (by omega) h
    rw [value]
    exact ⟨n, (misses_nullValue hb (by decide)).first_takes ((misses_boolean hb (by decide) (by decide)).first_takes
      ((misses_string hb (by decide) (by decide)).first_takes ((misses_number hb (.inl rfl)).first_takes
        ((misses_object hb (by decide)).first_takes harr)))), hn⟩
  | @obj fs hks hfs ih =>
    intro level fuel i r hfuel h _
    obtain ⟨f, rfl⟩ : ∃ f, fuel = f + 1 := ⟨fuel - 1, by omega⟩
    obtain ⟨t, ht⟩ := Json.toList_pretty_obj_head level fs
    have hb : after input i = '\x7b' :: (t ++ r) := by rw [h, ht, List.cons_append]
    obtain ⟨n, hobj, hn⟩ := takes_object (fun m hm => ⟨hks m hm, hfs m hm, ih m hm⟩) level f (by omega) h
    rw [value]
    exact ⟨n, (misses_nullValue hb (by decide)).first_takes ((misses_boolean hb (by decide) (by decide)).first_takes
      ((misses_string hb (by decide) (by decide)).first_takes ((misses_number hb (.inr (.inl rfl))).first_takes
        hobj.first))), hn⟩

theorem takes_read_bind {α : Type} {g : Array Char → Parse α} {j : Nat} {a : α} (h : Takes (g input) input i j a) :
    Takes (read >>= g) input i j a := by
  intro s hs
  obtain ⟨s', hgo, hpos⟩ := h s hs
  exact ⟨s', by rw [go_read_bind, hgo], hpos⟩

theorem takes_endOfInput (h : i = input.size) : Takes endOfInput input i i [Node.mk .eoi i i []] := by
  have hend : Takes (do if (← get).pos = (← read).size then pure [] else miss : Nodes) input i i [] := by
    intro s hs
    refine ⟨s, ?_, hs⟩
    rw [go_get_bind, go_read_bind, if_pos (by rw [hs, h])]
    rfl
  unfold endOfInput
  exact hend.named .eoi false

/-- **Pretty text reads back.** The pretty text of every value the relaxed syntax can hold, with
integer numbers and texts and keys free of U+2028 and U+2029, parses into a node that stands for
the value. -/
theorem parse_prettyText {v : Json} (hv : Json.Relaxable v) :
    ∃ n, parse (Json.prettyText v).toList.toArray = .ok n ∧ Stands (Json.prettyText v).toList.toArray n v := by
  set input := (Json.prettyText v).toList.toArray
  have hstart : after input 0 = (Json.pretty 0 v).toList ++ [] := by
    simp [after, input, Json.prettyText]
  have hsize : input.size = (Json.pretty 0 v).toList.length := by simp [input, Json.prettyText]
  obtain ⟨c, t, hct, hc⟩ := valueStart_pretty hv 0
  have hgap := takes_gap_nil hstart (by rw [hct, List.cons_append]; exact hc.gapEnd _)
  obtain ⟨n, hval, hn⟩ := readsBack hv 0 (2 * input.size + 2) 0 [] (by omega) hstart valueEnd_nil
  have hend := after_append hstart
  have hdoc : Takes document input 0 (0 + (Json.pretty 0 v).toList.length) ([n] ++ [Node.mk .eoi
      (0 + (Json.pretty 0 v).toList.length) (0 + (Json.pretty 0 v).toList.length) []]) := by
    unfold document
    exact hgap.bind (takes_read_bind (hval.bind ((takes_gap_nil hend gapEnd_nil).bind
      ((takes_endOfInput (by omega)).bind (takes_pure _)))))
  obtain ⟨s', hgo, -⟩ := hdoc ⟨0, 0, []⟩ rfl
  refine ⟨n, ?_, hn⟩
  unfold parse
  rw [show (document.run input).run.run ⟨0, 0, []⟩ = go document input ⟨0, 0, []⟩ from rfl, hgo]
  rfl

end Relaxed

end Warden
