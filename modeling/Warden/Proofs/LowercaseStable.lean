import Warden.Proofs.AsciiCase
import Warden.Proofs.RelaxedPretty

/-!
# Lowercasing part of a text first

Lowercasing a text is not done character by character: a capital sigma becomes `ς` at the end
of a word and `σ` elsewhere, and where a word ends depends on the cased characters around the
sigma. Still, putting any characters of a text other than `Σ` in lowercase beforehand changes
nothing: the text lowercases to the same result (`lowercase_eq_of_lowersTo`). So two texts that
become one when some of their characters are lowercased have one lowercase.

## What the case data must give

Three facts about single characters carry the argument.

* A lowercased character lowercases to itself and is no capital sigma (`lowerChar_lowered`).
* Lowercasing keeps whether a character is cased and whether it is case-ignorable, so every
  sigma keeps its word context, both after it (`casedPastIgnorable_lowerChar`) and before it
  (`casedPastIgnorable_reverse_lowerChar`).
* U+0130 becomes `i` and a combining dot above. Like U+0130, `i` is cased and not ignorable, and
  the dot is ignorable, so it hides nothing.

The first two are checked on the case data (`LowersStably`). The mapping moves only the points of
its runs and the ASCII capitals, some 1,500 points, and the check visits exactly those
(`lowercaseRuns_lowerStably`, `asciiCapitals_lowerStably`); every other character lowercases to
itself. The check runs the model's own searches of the tables, so it says what the model does.
-/

namespace Warden.Text

/-! ## Lowercasing one character -/

/-- Lowercasing `c` to `d` keeps it cased or not and case-ignorable or not; `d` lowercases to
itself, and it is neither `Σ` nor U+0130. -/
structure LowersStably (c d : Char) : Prop where
  cased : isCased d = isCased c
  ignorable : isCaseIgnorable d = isCaseIgnorable c
  fixed : lowerSimple d = d
  not_sigma : d ≠ 'Σ'
  not_dotted : d.toNat ≠ 0x130

instance (c d : Char) : Decidable (LowersStably c d) :=
  decidable_of_iff (isCased d = isCased c ∧ isCaseIgnorable d = isCaseIgnorable c ∧ lowerSimple d = d ∧
      d ≠ 'Σ' ∧ d.toNat ≠ 0x130)
    ⟨fun ⟨h₁, h₂, h₃, h₄, h₅⟩ => ⟨h₁, h₂, h₃, h₄, h₅⟩, fun h => ⟨h.1, h.2, h.3, h.4, h.5⟩⟩

/-- Every point a run of the mapping moves lowercases stably: checked on the table. -/
theorem lowercaseRuns_lowerStably : ∀ r ∈ lowercaseRuns.runs.toList, ∀ n ∈ List.range' r.lo (r.hi + 1 - r.lo),
    (n - r.lo) % r.step = 0 → LowersStably (Char.ofNat n) (Char.ofNat (n + r.delta).toNat) := by
  decide +kernel

/-- The ASCII capitals lowercase stably. -/
theorem asciiCapitals_lowerStably : ∀ n ∈ List.range' 0x41 26, LowersStably (Char.ofNat n) (Char.ofNat n).toLower := by
  decide +kernel

/-- The capital sigma is moved, to `σ`. -/
theorem image?_sigma : lowercaseRuns.image? 0x3A3 = some 0x3C3 := by
  decide +kernel

theorem lowersStably_self {c : Char} (hfix : lowerSimple c = c) (hsig : c ≠ 'Σ') (hdot : c.toNat ≠ 0x130) :
    LowersStably c c :=
  ⟨rfl, rfl, hfix, hsig, hdot⟩

/-- **Lowercasing one character is stable.** Every character but U+0130 lowercases, by the simple
mapping, to a character that lowercases to itself, is neither `Σ` nor U+0130, and is cased and
case-ignorable exactly when the character was. -/
theorem lowersStably_lowerSimple (c : Char) (hdot : c.toNat ≠ 0x130) : LowersStably c (lowerSimple c) := by
  by_cases hascii : c.toNat < 0x80
  · by_cases hcap : 0x41 ≤ c.toNat ∧ c.toNat ≤ 0x5A
    · -- an ASCII capital: checked with the others
      have hcheck := asciiCapitals_lowerStably c.toNat (List.mem_range'_1.2 ⟨hcap.1, by omega⟩)
      rw [Char.ofNat_toNat] at hcheck
      rwa [lowerSimple, if_pos hascii]
    · -- any other ASCII character stays
      have hfix : lowerSimple c = c := by
        rw [lowerSimple, if_pos hascii]
        exact Relaxed.toLower_eq_self (by omega)
      have hsig : c ≠ 'Σ' := by
        rintro rfl
        exact absurd hascii (by decide)
      rw [hfix]
      exact lowersStably_self hfix hsig hdot
  · cases him : lowercaseRuns.image? c.toNat with
    | none =>
      -- unmoved, so not the sigma, which is moved
      have hfix : lowerSimple c = c := by rw [lowerSimple, if_neg hascii, him]
      have hsig : c ≠ 'Σ' := by
        rintro rfl
        rw [show ('Σ' : Char).toNat = 0x3A3 from rfl, image?_sigma] at him
        cases him
      rw [hfix]
      exact lowersStably_self hfix hsig hdot
    | some m =>
      -- moved by a run: checked at that run's point
      obtain ⟨r, hr, hlo, hhi, hstep, rfl⟩ := CaseTable.image?_spec him
      have hcheck := lowercaseRuns_lowerStably r hr c.toNat (List.mem_range'_1.2 ⟨hlo, by omega⟩) hstep
      rw [Char.ofNat_toNat] at hcheck
      rwa [lowerSimple, if_neg hascii, him]

/-- U+0130 is cased and not ignorable, as is the `i` it lowercases to, and the combining dot after
the `i` is ignorable. -/
theorem dotted_cases : isCased 'İ' = true ∧ isCaseIgnorable 'İ' = false ∧ isCased 'i' = true ∧
    isCaseIgnorable 'i' = false ∧ isCaseIgnorable '̇' = true := by
  decide +kernel

/-- A character is U+0130 exactly when its code point is. -/
theorem eq_dotted_of_toNat {c : Char} (h : c.toNat = 0x130) : c = 'İ' := by
  have hc := Char.ofNat_toNat c
  rw [h] at hc
  exact hc.symm

/-- **What lowercasing gives is lowercase.** No character of a lowercased character is `Σ`, and
each lowercases to itself. -/
theorem lowerChar_lowered (c : Char) : ∀ d ∈ lowerChar c, d ≠ 'Σ' ∧ lowerChar d = [d] := by
  intro d hd
  unfold lowerChar at hd
  split at hd
  · -- the `i` and the combining dot of U+0130
    rcases List.mem_pair.1 hd with rfl | rfl <;> decide +kernel
  · next hdot =>
    rw [List.mem_singleton.1 hd]
    have hst := lowersStably_lowerSimple c hdot
    exact ⟨hst.not_sigma, by rw [lowerChar, if_neg hst.not_dotted, hst.fixed]⟩

/-! ## Word context -/

/-- The first character past the ignorable ones decides, unless it is ignorable itself. -/
theorem casedPastIgnorable_cons (c : Char) (b : List Char) :
    casedPastIgnorable (c :: b) = if isCaseIgnorable c then casedPastIgnorable b else isCased c := by
  cases h : isCaseIgnorable c <;> simp [casedPastIgnorable, h]

theorem casedPastIgnorable_cons_congr (c : Char) {b b' : List Char}
    (h : casedPastIgnorable b' = casedPastIgnorable b) :
    casedPastIgnorable (c :: b') = casedPastIgnorable (c :: b) := by
  rw [casedPastIgnorable_cons, casedPastIgnorable_cons, h]

/-- A character lowercased stably says the same of the word context as the character itself. -/
theorem LowersStably.casedPastIgnorable_cons {c d : Char} (h : LowersStably c d) (b : List Char) :
    casedPastIgnorable (d :: b) = casedPastIgnorable (c :: b) := by
  rw [Text.casedPastIgnorable_cons, Text.casedPastIgnorable_cons, h.cased, h.ignorable]

/-- A character ahead, lowercased, says the same of the word context as the character itself. -/
theorem casedPastIgnorable_lowerChar (c : Char) (rest : List Char) :
    casedPastIgnorable (lowerChar c ++ rest) = casedPastIgnorable (c :: rest) := by
  unfold lowerChar
  split
  · next hdot =>
    -- the `i` comes first and decides, as U+0130 does
    obtain ⟨hc, hic, hi, hii, -⟩ := dotted_cases
    rw [eq_dotted_of_toNat hdot]
    simp [casedPastIgnorable_cons, hc, hic, hi, hii]
  · next hdot =>
    rw [List.singleton_append]
    exact (lowersStably_lowerSimple c hdot).casedPastIgnorable_cons rest

/-- A character passed, lowercased, says the same of the word context as the character itself;
the passed characters are kept nearest first, so a lowercased one stands reversed. -/
theorem casedPastIgnorable_reverse_lowerChar (c : Char) (b : List Char) :
    casedPastIgnorable ((lowerChar c).reverse ++ b) = casedPastIgnorable (c :: b) := by
  unfold lowerChar
  split
  · next hdot =>
    -- the dot comes first and is passed over, then the `i` decides
    obtain ⟨hc, hic, hi, hii, hdi⟩ := dotted_cases
    rw [eq_dotted_of_toNat hdot]
    simp [casedPastIgnorable_cons, hc, hic, hi, hii, hdi]
  · next hdot =>
    rw [List.reverse_singleton, List.singleton_append]
    exact (lowersStably_lowerSimple c hdot).casedPastIgnorable_cons b

/-! ## Lowercasing some characters first -/

/-- `t` is `s` with some of its characters, none of them a capital sigma, put in lowercase. -/
inductive LowersTo : List Char → List Char → Prop
  | nil : LowersTo [] []
  | keep (c : Char) {s t : List Char} : LowersTo s t → LowersTo (c :: s) (c :: t)
  | lower {c : Char} {s t : List Char} : c ≠ 'Σ' → LowersTo s t → LowersTo (c :: s) (lowerChar c ++ t)

namespace LowersTo

theorem refl : ∀ s : List Char, LowersTo s s
  | [] => .nil
  | c :: s => .keep c (refl s)

/-- Lowercasing every character of a text without a capital sigma. -/
theorem lowerAll : ∀ s : List Char, (∀ c ∈ s, c ≠ 'Σ') → LowersTo s (s.flatMap lowerChar)
  | [], _ => .nil
  | c :: s, h => .lower (h c List.mem_cons_self) (lowerAll s fun d hd => h d (List.mem_cons_of_mem c hd))

/-- Lowercasing some characters keeps the word context that a text ahead gives. -/
theorem casedPastIgnorable_eq {s t : List Char} (h : LowersTo s t) :
    casedPastIgnorable t = casedPastIgnorable s := by
  induction h with
  | nil => rfl
  | keep c _ ih => exact casedPastIgnorable_cons_congr c ih
  | lower _ _ ih => rw [casedPastIgnorable_lowerChar]; exact casedPastIgnorable_cons_congr _ ih

end LowersTo

/-- Characters that lowercase to themselves, and none of them a sigma, pass through lowercasing
as they are, and join the characters passed. -/
theorem lowerFrom_append_lowered (b : List Char) {u : List Char} (hu : ∀ d ∈ u, d ≠ 'Σ' ∧ lowerChar d = [d])
    (t : List Char) : lowerFrom b (u ++ t) = u ++ lowerFrom (u.reverse ++ b) t := by
  induction u generalizing b with
  | nil => rfl
  | cons d u ih =>
    obtain ⟨hsig, hfix⟩ := hu d List.mem_cons_self
    simp only [List.cons_append]
    rw [lowerFrom, if_neg hsig, hfix, ih (d :: b) fun x hx => hu x (List.mem_cons_of_mem d hx)]
    simp

/-- **Lowercasing some characters first changes nothing.** Where `t` is `s` with some characters
other than `Σ` lowercased, `t` lowercases as `s` does, from any passed characters that agree on
the word context. The induction follows `LowersTo`; the passed characters of the two texts differ,
but the first one past the ignorable ones is cased in both or in neither. -/
theorem lowerFrom_eq_of_lowersTo {s t : List Char} (h : LowersTo s t) {b b' : List Char}
    (hb : casedPastIgnorable b' = casedPastIgnorable b) : lowerFrom b' t = lowerFrom b s := by
  induction h generalizing b b' with
  | nil => rfl
  | @keep c s t hst ih =>
    -- a kept sigma sees the same context on both sides
    have hends : endsWord b' t = endsWord b s := by
      rw [endsWord, endsWord, hb, hst.casedPastIgnorable_eq]
    rw [lowerFrom, lowerFrom, hends, ih (casedPastIgnorable_cons_congr c hb)]
  | lower hsig _ ih =>
    rw [lowerFrom_append_lowered b' (lowerChar_lowered _), lowerFrom, if_neg hsig]
    congr 1
    apply ih
    rw [casedPastIgnorable_reverse_lowerChar]
    exact casedPastIgnorable_cons_congr _ hb

/-- A text lowercases as it does once some of its characters other than `Σ` are lowercased. -/
theorem lowercase_eq_of_lowersTo {s : String} {t : List Char} (h : LowersTo s.toList t) :
    lowercase (String.ofList t) = lowercase s := by
  rw [lowercase, lowercase, String.toList_ofList, lowerFrom_eq_of_lowersTo h rfl]

end Warden.Text
