import Warden.Proofs.LowercaseStable
import Warden.Proofs.Roles

/-!
# Super-admin addresses up to case

The super-admin list holds the normal forms of its entries (blanks around them dropped, then the
Unicode lowercase), each once and none empty, and an address is on it when its normal form is
(`SuperAdmins.contains_iff`). So an address matches however its letters are cased, as far as
lowercasing joins the spellings: two addresses that become one text when, blanks aside, some of
their characters other than `Σ` are put in lowercase (`CaseVariants`) are on the list together or
not at all, and a sign-in promotes the same users for either (`super_admins_match_case_variants`).
Addresses that differ only in the case of ASCII letters are such variants.

## Where case does matter

Lowercasing is not case folding. A capital sigma lowercases to `ς` at the end of a word and to `σ`
elsewhere, so `aΣ@x` is not on a list that holds `aσ@x` (`sigma_spelling_misses_list`), though
`σ` is the lowercase of `Σ`. Letters that only uppercasing joins, as `ſ` and `s`, stay apart too.
-/

namespace Warden

namespace SuperAdmins

/-- Adding entries one by one, skipping the empty ones and those already there, keeps what was
there and adds the nonempty entries. -/
theorem mem_foldl_add (l acc : List String) (e : String) :
    e ∈ l.foldl (fun acc e => if e.isEmpty || acc.contains e then acc else acc ++ [e]) acc ↔
      e ∈ acc ∨ (e ≠ "" ∧ e ∈ l) := by
  induction l generalizing acc with
  | nil => simp
  | cons x l ih =>
    rw [List.foldl_cons, ih]
    by_cases hskip : (x.isEmpty || acc.contains x) = true
    · -- an empty entry, or one already there, adds nothing
      have hx : x ≠ "" → x ∈ acc := fun hne => by
        simpa [String.isEmpty_iff, hne, List.contains_iff_mem] using hskip
      rw [if_pos hskip, List.mem_cons]
      grind
    · -- a new entry, which is not empty, is added
      have hne : x ≠ "" := fun h => hskip (by simp [h])
      rw [if_neg hskip, List.mem_append, List.mem_singleton, List.mem_cons]
      grind

/-- The list holds the nonempty normal forms of its entries. -/
theorem mem_ofList (L : List String) (e : String) :
    e ∈ (ofList L).emails ↔ e ≠ "" ∧ ∃ x ∈ L, normalEmail x = e := by
  rw [ofList, mem_foldl_add, List.mem_map]
  simp

/-- **Membership.** An address is on the list exactly when its normal form is not empty and is the
normal form of an entry. -/
theorem contains_iff (L : List String) (e : String) :
    (ofList L).contains e = true ↔ normalEmail e ≠ "" ∧ ∃ x ∈ L, normalEmail x = normalEmail e := by
  rw [← mem_ofList]
  unfold contains
  simp only [Bool.and_eq_true, Bool.not_eq_true', List.isEmpty_eq_false_iff, String.isEmpty_eq_false_iff,
    List.contains_iff_mem]
  constructor
  · rintro ⟨-, h⟩
    exact h
  · intro h
    exact ⟨⟨List.ne_nil_of_mem h, (mem_ofList L _).1 h |>.1⟩, h⟩

/-- Addresses with one normal form are on a list together. -/
theorem contains_eq_of_normalEmail_eq (s : SuperAdmins) {e e' : String} (h : normalEmail e = normalEmail e') :
    s.contains e = s.contains e' := by
  unfold contains
  rw [h]

end SuperAdmins

/-- Two addresses are case variants: blanks around them aside, they become one text when some of
their characters, none of them a capital sigma, are put in lowercase. -/
def CaseVariants (e e' : String) : Prop :=
  ∃ t, Text.LowersTo (Text.trim e).toList t ∧ Text.LowersTo (Text.trim e').toList t

/-- Case variants have one normal form. -/
theorem normalEmail_eq_of_caseVariants {e e' : String} (h : CaseVariants e e') :
    normalEmail e = normalEmail e' := by
  obtain ⟨t, ht, ht'⟩ := h
  rw [normalEmail, normalEmail, ← Text.lowercase_eq_of_lowersTo ht, Text.lowercase_eq_of_lowersTo ht']

/-- ASCII lowercasing lowercases some characters, none of them a sigma. -/
theorem Text.LowersTo.map_toLower : ∀ s : List Char, Text.LowersTo s (s.map Char.toLower)
  | [] => .nil
  | c :: s => by
    rw [List.map_cons]
    by_cases hcap : 65 ≤ c.toNat ∧ c.toNat ≤ 90
    · -- an ASCII capital is lowercased
      have hlow : Text.lowerChar c = [c.toLower] := Text.lowerChar_of_lt (by omega)
      have hsig : c ≠ 'Σ' := by
        rintro rfl
        exact absurd hcap.2 (by decide)
      show Text.LowersTo (c :: s) ([c.toLower] ++ s.map Char.toLower)
      rw [← hlow]
      exact .lower hsig (map_toLower s)
    · -- any other character stays
      rw [Relaxed.toLower_eq_self (by omega)]
      exact .keep c (map_toLower s)

/-- Addresses that differ only in blanks around them and the case of ASCII letters are case
variants. -/
theorem caseVariants_of_map_toLower {e e' : String}
    (h : (Text.trim e).toList.map Char.toLower = (Text.trim e').toList.map Char.toLower) :
    CaseVariants e e' := by
  refine ⟨(Text.trim e).toList.map Char.toLower, Text.LowersTo.map_toLower _, ?_⟩
  rw [h]
  exact Text.LowersTo.map_toLower _

/-- **Super-admin addresses match up to case.** An address is on the list built from the entries
`L` exactly when its normal form is nonempty and is an entry's normal form. Case variants are on
it together, and addresses that differ only in the case of ASCII letters are case variants; so a
sign-in promotes the same users whichever case variant of the address the provider reports. -/
theorem super_admins_match_case_variants (L : List String) :
    (∀ e, (SuperAdmins.ofList L).contains e = true ↔
      normalEmail e ≠ "" ∧ ∃ x ∈ L, normalEmail x = normalEmail e) ∧
    (∀ e e', CaseVariants e e' → (SuperAdmins.ofList L).contains e = (SuperAdmins.ofList L).contains e') ∧
    (∀ e e', (Text.trim e).toList.map Char.toLower = (Text.trim e').toList.map Char.toLower →
      CaseVariants e e') ∧
    (∀ (d : MemoryUsers) (uid : String) (i : LoginInfo) (e' : String) (now later : Timestamp),
      CaseVariants i.email e' → ∀ u,
        (d.signIn (.ofList L) uid (some { i with email := e' }) now later).roleOf u =
          (d.signIn (.ofList L) uid (some i) now later).roleOf u) := by
  have hmatch : ∀ e e', CaseVariants e e' → (SuperAdmins.ofList L).contains e = (SuperAdmins.ofList L).contains e' :=
    fun e e' h => SuperAdmins.contains_eq_of_normalEmail_eq _ (normalEmail_eq_of_caseVariants h)
  refine ⟨SuperAdmins.contains_iff L, hmatch, fun _ _ => caseVariants_of_map_toLower, ?_⟩
  intro d uid i e' now later h u
  -- the sign-in promotes by the list's answer for the reported address, which is the same
  simp only [MemoryUsers.roleOf_signIn, hmatch i.email e' h]

example : CaseVariants " Root@Example.ORG\n" "rOOT@example.org" :=
  caseVariants_of_map_toLower (by decide)

/-- **Case matters at a sigma.** `aΣ@x` becomes `aσ@x` when its sigma is put in lowercase by the
simple mapping, yet a list that holds `aσ@x` holds the one and not the other: the sigma ends a
word, so the normal form of `aΣ@x` has `ς`. -/
theorem sigma_spelling_misses_list :
    "aΣ@x".toList.map Text.lowerSimple = "aσ@x".toList ∧
    (SuperAdmins.ofList ["aσ@x"]).contains "aσ@x" = true ∧
    (SuperAdmins.ofList ["aσ@x"]).contains "aΣ@x" = false := by
  decide +kernel

end Warden
