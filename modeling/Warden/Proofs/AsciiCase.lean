import Mathlib
import Warden.Text.Lower

/-!
# Lowercase text that comes out plain

Full Unicode lowercasing maps a few characters beyond ASCII into it: the Kelvin sign U+212A
becomes `k`, and the capital I with dot above U+0130 becomes `i` followed by a combining dot.
No other character leaves the range above 127 (`lowercaseRuns_plain`, checked on the table).
So when the lowercase of a text is made only of *plain* characters (ASCII, not NUL, not `k`),
the text itself is ASCII and its lowercase is its ASCII lowercase, letter by letter
(`lowercase_eq_iff_map_toLower`): it is the plain text up to the case of its ASCII letters.

The table is searched by halving; what the search finds is one of its runs, and the run holds
the code point (`CaseTable.findBetween_spec`), which is all the argument needs of the search.
-/

namespace Warden.Text

namespace CaseTable

/-- A run found by the search is one of the table's runs, and its span holds the code point. -/
theorem findBetween_spec {rs : Array CaseRun} {n lo hi : Nat} {r : CaseRun} (hhi : hi ≤ rs.size)
    (h : findBetween rs n lo hi = some r) : r ∈ rs.toList ∧ r.lo ≤ n ∧ n ≤ r.hi := by
  fun_induction findBetween rs n lo hi with
  | case1 lo hi hlt mid r' hn ih => exact ih (by omega) h
  | case2 lo hi hlt mid r' hn hn' ih => exact ih hhi h
  | case3 lo hi hlt mid r' hn hn' =>
    -- the middle run is inside the array, since `mid < hi`
    have hmid : mid < rs.size := by omega
    have hr' : r' = rs[mid] := by simp [r', hmid]
    have hr : r = r' := (Option.some.inj h).symm
    subst hr
    refine ⟨?_, by omega, by omega⟩
    rw [hr', Array.mem_toList_iff]
    exact Array.getElem_mem hmid
  | case4 lo hi hge => cases h

/-- The image of a code point comes from a run of the table whose span holds the point on one of
its steps. -/
theorem image?_spec {t : CaseTable} {n m : Nat} (h : t.image? n = some m) :
    ∃ r ∈ t.runs.toList, r.lo ≤ n ∧ n ≤ r.hi ∧ (n - r.lo) % r.step = 0 ∧ m = (n + r.delta).toNat := by
  unfold image? at h
  split at h
  · next r hfind =>
    obtain ⟨hmem, hlo, hhi⟩ := findBetween_spec le_rfl hfind
    split at h
    · next hstep =>
      cases h
      exact ⟨r, hmem, hlo, hhi, hstep, rfl⟩
    · cases h
  · cases h

end CaseTable

/-- A run of the lowercase mapping moves its points above 127 to points above 127, unless it
lies below 128 or is the Kelvin sign's. -/
def PlainRun (r : CaseRun) : Prop :=
  r.hi < 0x80 ∨ 0x80 ≤ (r.lo : Int) + r.delta ∨ (r.lo = 0x212A ∧ r.hi = 0x212A ∧ r.delta = -0x20BF)

instance : DecidablePred PlainRun := fun _ => inferInstanceAs (Decidable (_ ∨ _ ∨ _))

set_option maxRecDepth 4000 in
/-- Every run of the lowercase mapping is plain: checked on the table. -/
theorem lowercaseRuns_plain : ∀ r ∈ lowercaseRuns.runs.toList, PlainRun r := by
  decide +kernel

/-- A character is plain when it is ASCII but neither NUL nor `k`: lowercasing gives such a
character only from itself or from its ASCII capital. -/
def IsPlain (c : Char) : Prop := 0 < c.toNat ∧ c.toNat < 0x80 ∧ c ≠ 'k'

instance : DecidablePred IsPlain := fun _ => inferInstanceAs (Decidable (_ ∧ _ ∧ _))

/-- A code point read as a character is itself, or NUL when it is no character. -/
theorem toNat_ofNat_cases (n : Nat) : (Char.ofNat n).toNat = n ∨ (Char.ofNat n).toNat = 0 := by
  unfold Char.ofNat
  split
  · exact .inl rfl
  · exact .inr rfl

/-- A character whose simple lowercase is plain is ASCII. -/
theorem lt_of_lowerSimple_plain {c : Char} (h : IsPlain (lowerSimple c)) : c.toNat < 0x80 := by
  by_contra hc
  unfold lowerSimple at h
  rw [if_neg hc] at h
  split at h
  · next m hm =>
    obtain ⟨r, hr, hlo, hhi, -, rfl⟩ := CaseTable.image?_spec hm
    obtain ⟨hpos, hlt, hk⟩ := h
    rcases lowercaseRuns_plain r hr with hbelow | habove | ⟨hlo', hhi', hdelta⟩
    · omega
    · -- the image is above 127: read as a character it stays there, or it is no character and
      -- reads as NUL
      have hge : 0x80 ≤ (c.toNat + r.delta).toNat := by omega
      rcases toNat_ofNat_cases (c.toNat + r.delta).toNat with heq | heq <;> omega
    · -- the Kelvin sign lowercases to `k`
      have hkelvin : (c.toNat + r.delta).toNat = 0x6B := by omega
      rw [hkelvin] at hk
      exact hk rfl
  · exact hc h.2.1

/-- An ASCII character lowercases to its ASCII lowercase. -/
theorem lowerChar_of_lt {c : Char} (h : c.toNat < 0x80) : lowerChar c = [c.toLower] := by
  rw [lowerChar, if_neg (by omega), lowerSimple, if_pos h]

/-- ASCII lowercasing leaves every character beyond ASCII as it is. -/
theorem lt_of_toLower_lt {c : Char} (h : c.toLower.toNat < 0x80) : c.toNat < 0x80 := by
  unfold Char.toLower at h
  split at h
  · next hcap =>
    have hz : c.val.toNat ≤ 90 := UInt32.le_iff_toNat_le.1 hcap.2
    exact Nat.lt_of_le_of_lt hz (by decide)
  · exact h

/-- Beyond ASCII, lowercasing a character gives one that is not plain: a sigma, a combining dot
after the `i` of U+0130, or a character outside ASCII. -/
theorem exists_not_plain {c : Char} (hc : ¬ c.toNat < 0x80) (before rest : List Char) :
    ∃ d ∈ (if c = 'Σ' then [if endsWord before rest then 'ς' else 'σ'] else lowerChar c), ¬ IsPlain d := by
  split
  · refine ⟨_, List.mem_singleton_self _, fun hd => ?_⟩
    have hlt := hd.2.1
    split at hlt <;> exact absurd hlt (by decide)
  · unfold lowerChar
    split
    · exact ⟨'̇', by simp, fun hd => absurd hd.2.1 (by decide)⟩
    · exact ⟨_, List.mem_singleton_self _, fun hd => hc (lt_of_lowerSimple_plain hd)⟩

/-- One step of `lowerFrom_eq_iff`: the first character decides nothing against plainness
unless it is ASCII, and then it lowercases by itself. -/
theorem lowerFrom_cons_eq_iff {before : List Char} {c : Char} {rest w : List Char}
    (ih : ∀ before w, (∀ d ∈ w, IsPlain d) → (lowerFrom before rest = w ↔ rest.map Char.toLower = w))
    (hw : ∀ d ∈ w, IsPlain d) :
    lowerFrom before (c :: rest) = w ↔ (c :: rest).map Char.toLower = w := by
  rw [lowerFrom, List.map_cons]
  by_cases hc : c.toNat < 0x80
  · have hsig : c ≠ 'Σ' := by
      rintro rfl
      exact absurd hc (by decide)
    rw [if_neg hsig, lowerChar_of_lt hc, List.singleton_append]
    constructor
    · rintro rfl
      have hrest := (ih (c :: before) _ fun d hd => hw d (List.mem_cons_of_mem _ hd)).1 rfl
      rw [hrest]
    · rintro rfl
      have hrest := (ih (c :: before) _ fun d hd => hw d (List.mem_cons_of_mem _ hd)).2 rfl
      rw [hrest]
  · constructor
    · rintro rfl
      obtain ⟨d, hd, hnot⟩ := exists_not_plain hc before rest
      exact absurd (hw d (List.mem_append_left _ hd)) hnot
    · rintro rfl
      exact absurd (lt_of_toLower_lt (hw _ List.mem_cons_self).2.1) hc

/-- **Plain lowercase.** A text lowercases to plain characters exactly when lowercasing its ASCII
letters gives them; the text is then ASCII. -/
theorem lowerFrom_eq_iff (before t w : List Char) (hw : ∀ d ∈ w, IsPlain d) :
    lowerFrom before t = w ↔ t.map Char.toLower = w := by
  induction t generalizing before w with
  | nil => simp [lowerFrom]
  | cons c rest ih => exact lowerFrom_cons_eq_iff ih hw

/-- **Plain lowercase of a text.** -/
theorem lowercase_eq_iff_map_toLower (t : String) {w : List Char} (hw : ∀ d ∈ w, IsPlain d) :
    (lowercase t).toList = w ↔ t.toList.map Char.toLower = w := by
  rw [lowercase, String.toList_ofList]
  exact lowerFrom_eq_iff [] t.toList w hw

end Warden.Text
