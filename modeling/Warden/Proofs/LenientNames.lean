import Warden.Access.Input
import Warden.Proofs.AsciiCase

/-!
# Roles, providers and capabilities named leniently

Administrators name roles, providers and capabilities in free text, and the readers forgive a
great deal: blanks around the text, the case of its letters and, for providers and
capabilities, one conventional prefix in front and separators inside. This module says exactly
which texts each reader accepts, without referring to how it reads them.

A text names role `r` when, blanks aside, it is the role's name up to the case of its ASCII
letters (`Role.parse?_eq_some_iff`). The assignment path reads the same names but refuses
`super_admin`, so no text at all assigns that role (`role_named_leniently`).

A text names provider `p` when, blanks aside and up to the case of its ASCII letters, it is one
of the prefixes `provider_type_`, `provider-type-`, `provider_`, `provider-` (or none) followed by
the provider's name with any number of `_` and `-` put in anywhere (`Provider.parse?_eq_some_iff`).
A text names capability `c` when it is one of the prefixes `model_capability_`,
`model-capability-`, `capability_`, `capability-` (or none) followed by one of the capability's
words (its name, or its short alias) with each `_` written `_` or `-`
(`Capability.parse?_eq_some_iff`).

## Why the readers agree with these descriptions

The readers lowercase by Unicode, not by ASCII. Every character a description admits is
*plain* (ASCII, not NUL, not `k`), and a text lowercases to plain characters exactly when its
ASCII lowercase gives them (`Text.lowercase_eq_iff_map_toLower`); so Unicode lowercasing can
neither add a text to the ones described nor take one away.

The readers drop the first prefix the text starts with, trying them in a fixed order. Each
prefix tried before the one the description uses disagrees with it, or with the first
character after it, at some place (`Disagree`): so the reader drops exactly the description's
prefix (`dropFirstPrefix_append`). That first character is a separator or the first letter of
a name, which no prefix has where it stands.
-/

namespace Warden

/-- Every character of the list is plain. -/
def Text.AllPlain (l : List Char) : Prop := ∀ c ∈ l, Text.IsPlain c

-- decided along the list: an instance for a statement about every character would try them all
instance : DecidablePred Text.AllPlain := fun l => List.decidableBAll Text.IsPlain l

/-! ## Dropping a prefix -/

/-- Two lists of characters disagree when they differ at some place both reach. -/
def Disagree (q l : List Char) : Prop := ∃ p ∈ q.zip l, p.1 ≠ p.2

instance (q l : List Char) : Decidable (Disagree q l) := List.decidableBEx _ _

/-- A list that disagrees with `l` starts nothing that `l` starts. -/
theorem not_prefix_of_disagree {q l : List Char} (h : Disagree q l) (rest : List Char) :
    ¬ q <+: l ++ rest := by
  induction q generalizing l with
  | nil => simp [Disagree] at h
  | cons a q ih =>
    cases l with
    | nil => simp [Disagree] at h
    | cons b l =>
      intro hpre
      obtain ⟨hab, hq⟩ := List.cons_prefix_cons.1 hpre
      obtain ⟨p, hp, hne⟩ := h
      rcases List.mem_cons.1 hp with rfl | hp
      · exact hne hab
      · exact ih ⟨p, hp, hne⟩ hq

/-- The prefix found first in `pre ++ h :: rest` is `pre` itself (none for the empty one), when
`pre` is listed and every prefix tried before it disagrees with `pre ++ [h]`. -/
theorem find?_prefix_append {ps : List String} {pre : String} {h : Char} {rest : List Char}
    (hpre : pre = "" ∨ pre ∈ ps) (hne : "" ∉ ps)
    (hdis : ∀ q ∈ ps.takeWhile (· ≠ pre), Disagree q.toList (pre.toList ++ [h])) :
    ps.find? (fun q => q.toList.isPrefixOf (pre.toList ++ h :: rest)) =
      if pre = "" then none else some pre := by
  induction ps with
  | nil =>
    rcases hpre with rfl | hmem
    · rfl
    · exact absurd hmem List.not_mem_nil
  | cons q ps ih =>
    by_cases hq : q = pre
    · -- the prefix itself comes next, and it starts the text
      subst hq
      have hne' : q ≠ "" := fun h => hne (h ▸ List.mem_cons_self)
      have hstarts : q.toList.isPrefixOf (q.toList ++ h :: rest) = true :=
        List.isPrefixOf_iff_prefix.2 (List.prefix_append _ _)
      simp only [List.find?_cons, hstarts, if_neg hne']
    · -- a prefix tried before it disagrees, so it is passed over
      have hq' : ¬ q.toList <+: pre.toList ++ h :: rest := by
        have := not_prefix_of_disagree (hdis q (by simp [hq])) rest
        rwa [List.append_assoc, List.singleton_append] at this
      have hpassed : q.toList.isPrefixOf (pre.toList ++ h :: rest) = false :=
        Bool.eq_false_iff.2 fun hstarts => hq' (List.isPrefixOf_iff_prefix.1 hstarts)
      simp only [List.find?_cons, hpassed]
      refine ih ?_ (fun h => hne (List.mem_cons_of_mem _ h)) fun q' hq'' => hdis q' ?_
      · rcases hpre with h | h
        · exact .inl h
        · exact .inr ((List.mem_cons.1 h).resolve_left (Ne.symm hq))
      · rw [List.takeWhile_cons_of_pos (by simpa using hq)]
        exact List.mem_cons_of_mem _ hq''

/-- **Dropping the described prefix.** Dropping the first listed prefix that `pre ++ h :: rest`
starts with leaves `h :: rest`, when `pre` is listed (or empty) and every prefix tried before it
disagrees with `pre ++ [h]`. -/
theorem dropFirstPrefix_append {ps : List String} {pre : String} {h : Char} {rest : List Char}
    (hpre : pre = "" ∨ pre ∈ ps) (hne : "" ∉ ps)
    (hdis : ∀ q ∈ ps.takeWhile (· ≠ pre), Disagree q.toList (pre.toList ++ [h])) :
    dropFirstPrefix ps (String.ofList (pre.toList ++ h :: rest)) = String.ofList (h :: rest) := by
  rw [dropFirstPrefix, String.toList_ofList, find?_prefix_append hpre hne hdis]
  by_cases hempty : pre = ""
  · subst hempty
    rfl
  · rw [if_neg hempty]
    show String.ofList ((pre.toList ++ h :: rest).drop pre.length) = _
    rw [← String.length_toList, List.drop_left]

/-- What the reader drops is a listed prefix the text starts with, or nothing. -/
theorem dropFirstPrefix_spec (ps : List String) (s : String) :
    ∃ pre ∈ "" :: ps, s.toList = pre.toList ++ (dropFirstPrefix ps s).toList := by
  unfold dropFirstPrefix
  split
  · next p hfind =>
    have hp := List.find?_some hfind
    obtain ⟨t, ht⟩ := List.isPrefixOf_iff_prefix.1 hp
    refine ⟨p, List.mem_cons_of_mem _ (List.mem_of_find?_eq_some hfind), ?_⟩
    rw [String.toList_ofList, ← ht, ← String.length_toList, List.drop_left]
  · exact ⟨"", List.mem_cons_self, by simp⟩

/-! ## Lenient reading -/

/-- A prefix, listed or the empty one, followed by a plain rest is plain when the listed prefixes
are. -/
theorem plain_prefix_append {ps : List String} (hps : ∀ q ∈ ps, Text.AllPlain q.toList)
    {pre : String} (hpre : pre ∈ "" :: ps) {v : List Char} (hv : Text.AllPlain v) :
    Text.AllPlain (pre.toList ++ v) := by
  refine List.forall_mem_append.2 ⟨?_, hv⟩
  rcases List.mem_cons.1 hpre with rfl | hpre
  · simp
  · exact hps pre hpre

/-- **Lenient reading.** A reader that trims a text, lowercases it, drops the first of the
prefixes `ps` it starts with, and accepts what is left when its normal form `norm` passes a test
`T`, accepts exactly the texts that are, blanks aside and up to the case of their ASCII letters,
a prefix (or none) followed by some `v` whose normal form passes. This needs three things of the
prefixes and of what passes: their characters are plain, and what passes starts with a character
on which every prefix tried before the one in front disagrees with it. -/
theorem lenient_iff (ps : List String) (norm : List Char → List Char) (T : List Char → Prop)
    (hne : "" ∉ ps) (hps : ∀ q ∈ ps, Text.AllPlain q.toList) (hplain : ∀ v, T (norm v) → Text.AllPlain v)
    (hhead : ∀ v, T (norm v) → ∃ h rest, v = h :: rest ∧
      ∀ pre ∈ "" :: ps, ∀ q ∈ ps.takeWhile (· ≠ pre), Disagree q.toList (pre.toList ++ [h]))
    (s : String) :
    T (norm (dropFirstPrefix ps (Text.lowercase (Text.trim s))).toList) ↔
      ∃ pre ∈ "" :: ps, ∃ v, T (norm v) ∧ (Text.trim s).toList.map Char.toLower = pre.toList ++ v := by
  constructor
  · intro hT
    obtain ⟨pre, hpre, hu⟩ := dropFirstPrefix_spec ps (Text.lowercase (Text.trim s))
    refine ⟨pre, hpre, _, hT, ?_⟩
    -- the lowercase is plain, so it is the ASCII lowercase
    exact (Text.lowercase_eq_iff_map_toLower _ (plain_prefix_append hps hpre (hplain _ hT))).1 hu
  · rintro ⟨pre, hpre, v, hT, hmap⟩
    have hu : (Text.lowercase (Text.trim s)).toList = pre.toList ++ v :=
      (Text.lowercase_eq_iff_map_toLower _ (plain_prefix_append hps hpre (hplain v hT))).2 hmap
    -- the reader drops exactly the prefix in front
    obtain ⟨h, rest, rfl, hdis⟩ := hhead v hT
    have hlower : Text.lowercase (Text.trim s) = String.ofList (pre.toList ++ h :: rest) := by
      rw [← hu, String.ofList_toList]
    rw [hlower, dropFirstPrefix_append (List.mem_cons.1 hpre) hne (hdis pre hpre), String.toList_ofList]
    exact hT

/-! ## Roles -/

namespace Role

/-- The text names role `r`: blanks aside, it is the role's name up to the case of its ASCII
letters. -/
def Names (s : String) (r : Role) : Prop :=
  (Text.trim s).toList.map Char.toLower = r.name.toList

/-- Every role's name is plain. -/
theorem name_plain (r : Role) : Text.AllPlain r.name.toList := by
  cases r <;> decide

/-- The reader accepts exactly the texts whose trimmed lowercase is a role's name. -/
theorem parse?_eq_some_iff_lowercase (s : String) (r : Role) :
    parse? s = some r ↔ Text.lowercase (Text.trim s) = r.name := by
  unfold parse?
  generalize Text.lowercase (Text.trim s) = t
  -- the reader compares `t` with each name in turn
  split <;> cases r <;> simp_all [name]

/-- **Roles named leniently.** The reader accepts a text as role `r` exactly when the text names
`r`: Unicode lowercasing accepts no other spelling, since the names are plain. -/
theorem parse?_eq_some_iff (s : String) (r : Role) : parse? s = some r ↔ Names s r := by
  rw [parse?_eq_some_iff_lowercase, ← String.toList_inj]
  exact Text.lowercase_eq_iff_map_toLower _ (name_plain r)

/-- A stored role is the role its text names, or the lowest role when it names none. -/
theorem ofStored_eq_iff (s : String) (r : Role) :
    ofStored s = r ↔ Names s r ∨ (r = user ∧ ∀ r', ¬ Names s r') := by
  simp only [ofStored, ← parse?_eq_some_iff]
  cases parse? s with
  | none => simp [eq_comm]
  | some q => simp

end Role

/-- The assignment path answers a role, or that the role is invalid. -/
theorem parseAssignableRole_cases (s : String) :
    (∃ r, parseAssignableRole s = .ok r) ∨ parseAssignableRole s = .error .invalidRole := by
  unfold parseAssignableRole
  split
  · next r _ =>
    by_cases hr : r.isAssignable = true
    · exact .inl ⟨r, if_pos hr⟩
    · exact .inr (if_neg hr)
  · exact .inr rfl

/-- **Roles named by the caller.** The role reader accepts a text as `r` exactly when the text
names `r`, and a stored text reads as the role it names or else as the lowest role. The
assignment path accepts a text as `r` exactly when the reader does and `r` is `user` or `admin`,
and refuses every other text as an invalid role: no text is ever assigned `super_admin`. -/
theorem role_named_leniently (s : String) :
    (∀ r, Role.parse? s = some r ↔ Role.Names s r) ∧
    (∀ r, Role.Names s r → Role.ofStored s = r) ∧
    ((∀ r, ¬ Role.Names s r) → Role.ofStored s = .user) ∧
    (∀ r, parseAssignableRole s = .ok r ↔ Role.parse? s = some r ∧ r ∈ [Role.user, Role.admin]) ∧
    ((∀ r ∈ [Role.user, Role.admin], Role.parse? s ≠ some r) →
      parseAssignableRole s = .error .invalidRole) ∧
    parseAssignableRole s ≠ .ok .superAdmin := by
  have hok : ∀ r, parseAssignableRole s = .ok r ↔ Role.parse? s = some r ∧ r ∈ [Role.user, Role.admin] := by
    intro r
    unfold parseAssignableRole
    cases Role.parse? s with
    | none => simp
    | some q => cases q <;> cases r <;> simp [Role.isAssignable]
  refine ⟨Role.parse?_eq_some_iff s, fun r hr => (Role.ofStored_eq_iff s r).2 (.inl hr),
    fun hnone => (Role.ofStored_eq_iff s .user).2 (.inr ⟨rfl, hnone⟩), hok, fun hnot => ?_,
    fun h => by simpa using (hok _).1 h⟩
  -- neither assignable role is read, so no role is answered
  rcases parseAssignableRole_cases s with ⟨r, hr⟩ | h
  · obtain ⟨hread, hmem⟩ := (hok r).1 hr
    exact absurd hread (hnot r hmem)
  · exact h

example : Role.parse? " ADMIN\t" = some .admin ∧ Role.parse? "Super_Admin\u3000" = some .superAdmin := by
  decide

/-! ## Providers -/

namespace Provider

/-- The text names provider `p` the way the lenient reading accepts: blanks aside and up to the
case of its ASCII letters, it is one of the prefixes, or none, followed by the provider's name
with any number of `_` and `-` put in anywhere. -/
def Names (s : String) (p : Provider) : Prop :=
  ∃ pre ∈ "" :: prefixes, ∃ v : List Char, v.filter (fun c => c ≠ '_' && c ≠ '-') = p.name.toList ∧
    (Text.trim s).toList.map Char.toLower = pre.toList ++ v

/-- The reader accepts exactly the texts whose lowercase, its prefix dropped and its separators
taken out, is a provider's name. -/
theorem parse?_eq_some_iff_filter (s : String) (p : Provider) :
    parse? s = some p ↔ (dropFirstPrefix prefixes (Text.lowercase (Text.trim s))).toList.filter
      (fun c => c ≠ '_' && c ≠ '-') = p.name.toList := by
  unfold parse?
  dsimp only
  generalize (dropFirstPrefix prefixes (Text.lowercase (Text.trim s))).toList.filter
    (fun c => c ≠ '_' && c ≠ '-') = l
  -- the reader compares the text of `l` with each name in turn
  have hl : ∀ t : String, String.ofList l = t ↔ l = t.toList := fun t =>
    ⟨fun h => by rw [← h, String.toList_ofList], fun h => by rw [h, String.ofList_toList]⟩
  split
  · next h => cases p <;> simp [name, (hl _).1 h]
  · next h => cases p <;> simp [name, (hl _).1 h]
  · next h₁ h₂ =>
    cases p
    · simpa [name] using fun h => h₁ ((hl _).2 h)
    · simpa [name] using fun h => h₂ ((hl _).2 h)

set_option maxRecDepth 4000 in
/-- No prefix is empty, and every prefix is plain. -/
theorem prefixes_plain : "" ∉ prefixes ∧ ∀ q ∈ prefixes, Text.AllPlain q.toList := by
  decide

/-- Every provider's name is plain. -/
theorem name_plain (p : Provider) : Text.AllPlain p.name.toList := by
  cases p <;> decide

/-- A spelling of a name is plain: each of its characters is a separator or one of the name's. -/
theorem plain_of_spelling {p : Provider} {v : List Char}
    (hv : v.filter (fun c => c ≠ '_' && c ≠ '-') = p.name.toList) : Text.AllPlain v := by
  intro c hc
  by_cases hsep : c = '_' ∨ c = '-'
  · rcases hsep with rfl | rfl <;> decide
  · exact name_plain p c (hv ▸ List.mem_filter.2 ⟨hc, by simpa [not_or] using hsep⟩)

/-- A spelling of a name starts with a separator or with the name's first letter. -/
theorem head_of_filter_eq {p : Provider} {h : Char} {rest : List Char}
    (hv : (h :: rest).filter (fun c => c ≠ '_' && c ≠ '-') = p.name.toList) :
    [h] ∈ [['_'], ['-'], p.name.toList.take 1] := by
  by_cases hsep : h = '_' ∨ h = '-'
  · rcases hsep with rfl | rfl <;> simp
  · rw [List.filter_cons_of_pos (by simpa [not_or] using hsep)] at hv
    simp [← hv]

set_option maxRecDepth 4000 in
/-- Each prefix tried before the one a text uses disagrees with it followed by a separator or by
the first letter of the name. -/
theorem disagree_before (p : Provider) : ∀ pre ∈ "" :: prefixes, ∀ q ∈ prefixes.takeWhile (· ≠ pre),
    ∀ l ∈ [['_'], ['-'], p.name.toList.take 1], Disagree q.toList (pre.toList ++ l) := by
  cases p <;> decide

/-- **Providers named leniently.** The reader accepts a text as provider `p` exactly when the text
names `p`: blanks aside and up to the case of its ASCII letters, a prefix or none, then the name
with separators put in. -/
theorem parse?_eq_some_iff (s : String) (p : Provider) : parse? s = some p ↔ Names s p := by
  rw [parse?_eq_some_iff_filter]
  refine lenient_iff prefixes (List.filter fun c => c ≠ '_' && c ≠ '-') (· = p.name.toList)
    prefixes_plain.1 prefixes_plain.2 (fun _ => plain_of_spelling) ?_ s
  intro v hv
  -- a spelling is not empty, since the name is not
  cases v with
  | nil => cases p <;> simp [name] at hv
  | cons h rest =>
    exact ⟨h, rest, rfl, fun pre hpre q hq => disagree_before p pre hpre q hq [h] (head_of_filter_eq hv)⟩

end Provider

/-- **Providers named by the caller.** The provider reader accepts a text as `p` exactly when the
text names `p`, and reads no provider from a text that names none; the caller's provider field
is read the same way, and a text naming no provider is refused as an invalid provider. -/
theorem provider_named_leniently (s : String) :
    (∀ p, Provider.parse? s = some p ↔ Provider.Names s p) ∧
    (Provider.parse? s = none ↔ ∀ p, ¬ Provider.Names s p) ∧
    (∀ p, parseProvider s = .ok p ↔ Provider.Names s p) ∧
    (parseProvider s = .error .invalidProvider ↔ ∀ p, ¬ Provider.Names s p) := by
  have hnone : Provider.parse? s = none ↔ ∀ p, ¬ Provider.Names s p := by
    simp only [← Provider.parse?_eq_some_iff, Option.eq_none_iff_forall_ne_some]
  refine ⟨Provider.parse?_eq_some_iff s, hnone, fun p => ?_, ?_⟩
  · rw [← Provider.parse?_eq_some_iff]
    unfold parseProvider
    split
    · next q hq => simp [hq]
    · next hq => simp [hq]
  · rw [← hnone]
    unfold parseProvider
    split
    · next q hq => simp [hq]
    · next hq => simp [hq]

example : Provider.parse? " Provider-Type-Dash_Scope " = some .dashscope := by
  decide

/-! ## Capabilities -/

namespace Capability

/-- The words that name a capability: its name, and the short alias some capabilities have. -/
def words : Capability → List String
  | text => ["text"]
  | images => ["images", "image"]
  | audio => ["audio"]
  | video => ["video"]
  | tools => ["tools", "tool"]
  | promptCache => ["prompt_cache", "promptcache"]
  | streaming => ["streaming", "stream"]
  | reasoning => ["reasoning", "reason"]

/-- A word reads as the capability it is a word of, and nothing else does. -/
theorem ofWord?_eq_some_iff (w : String) (c : Capability) : ofWord? w = some c ↔ w ∈ c.words := by
  unfold ofWord?
  split <;> cases c <;> simp_all [words]

/-- The text names capability `c` the way the lenient reading accepts: blanks aside and up to the
case of its ASCII letters, it is one of the prefixes, or none, followed by one of the capability's
words with each `_` written `_` or `-`. -/
def Names (s : String) (c : Capability) : Prop :=
  ∃ pre ∈ "" :: prefixes, ∃ v : List Char,
    (∃ w ∈ c.words, v.map (fun x => if x = '-' then '_' else x) = w.toList) ∧
    (Text.trim s).toList.map Char.toLower = pre.toList ++ v

/-- The reader accepts exactly the texts whose lowercase, its prefix dropped and its `-` read as
`_`, is one of the capability's words. -/
theorem parse?_eq_some_iff_word (s : String) (c : Capability) :
    parse? s = some c ↔ ∃ w ∈ c.words,
      (dropFirstPrefix prefixes (Text.lowercase (Text.trim s))).toList.map
        (fun x => if x = '-' then '_' else x) = w.toList := by
  unfold parse?
  dsimp only
  rw [ofWord?_eq_some_iff]
  constructor
  · intro hw
    exact ⟨_, hw, by rw [String.toList_ofList]⟩
  · rintro ⟨w, hw, hl⟩
    rwa [hl, String.ofList_toList]

set_option maxRecDepth 4000 in
/-- No prefix is empty, and every prefix is plain. -/
theorem prefixes_plain : "" ∉ prefixes ∧ ∀ q ∈ prefixes, Text.AllPlain q.toList := by
  decide

/-- No word is empty, and every word is plain. -/
theorem words_plain (c : Capability) : ∀ w ∈ c.words, w ≠ "" ∧ Text.AllPlain w.toList := by
  cases c <;> decide

/-- A spelling of a word is plain: each of its characters is a `-` or one of the word's. -/
theorem plain_of_spelling {c : Capability} {v : List Char}
    (hv : ∃ w ∈ c.words, v.map (fun x => if x = '-' then '_' else x) = w.toList) :
    Text.AllPlain v := by
  obtain ⟨w, hw, hmap⟩ := hv
  intro x hx
  by_cases hdash : x = '-'
  · subst hdash
    decide
  · exact (words_plain c w hw).2 x (hmap ▸ List.mem_map.2 ⟨x, hx, if_neg hdash⟩)

/-- A spelling of a word starts with `-` or with the word's first letter. -/
theorem head_of_map_eq {w : String} {h : Char} {rest : List Char}
    (hv : (h :: rest).map (fun x => if x = '-' then '_' else x) = w.toList) :
    [h] ∈ [['-'], w.toList.take 1] := by
  by_cases hdash : h = '-'
  · simp [hdash]
  · rw [List.map_cons, if_neg hdash] at hv
    simp [← hv]

set_option maxRecDepth 4000 in
/-- Each prefix tried before the one a text uses disagrees with it followed by `-` or by the first
letter of a word. -/
theorem disagree_before (c : Capability) : ∀ w ∈ c.words, ∀ pre ∈ "" :: prefixes,
    ∀ q ∈ prefixes.takeWhile (· ≠ pre), ∀ l ∈ [['-'], w.toList.take 1],
      Disagree q.toList (pre.toList ++ l) := by
  cases c <;> decide

/-- **Capabilities named leniently.** The reader accepts a text as capability `c` exactly when the
text names `c`: blanks aside and up to the case of its ASCII letters, a prefix or none, then one of
the capability's words with each `_` written `_` or `-`. -/
theorem parse?_eq_some_iff (s : String) (c : Capability) : parse? s = some c ↔ Names s c := by
  rw [parse?_eq_some_iff_word]
  refine lenient_iff prefixes (List.map fun x => if x = '-' then '_' else x)
    (fun l => ∃ w ∈ c.words, l = w.toList) prefixes_plain.1 prefixes_plain.2
    (fun _ => plain_of_spelling) ?_ s
  rintro v ⟨w, hw, hmap⟩
  -- a spelling is not empty, since the word is not
  cases v with
  | nil => exact absurd (String.toList_eq_nil_iff.1 hmap.symm) (words_plain c w hw).1
  | cons h rest =>
    exact ⟨h, rest, rfl, fun pre hpre q hq => disagree_before c w hw pre hpre q hq [h] (head_of_map_eq hmap)⟩

end Capability

/-- Reading the entries of a list in turn stops at the first entry that names no capability and
reports it as written; when there is none, it gives every entry's capability in order. -/
theorem mapM_parseCapability (l : List String) :
    l.mapM parseCapability =
      match l.find? (fun n => (Capability.parse? n).isNone) with
      | some e => Except.error (AccessError.invalidCapability e)
      | none => Except.ok (l.filterMap Capability.parse?) := by
  induction l with
  | nil => rfl
  | cons n rest ih =>
    rw [List.mapM_cons, ih, List.find?_cons, List.filterMap_cons]
    unfold parseCapability
    cases hc : Capability.parse? n with
    | none => rfl
    | some c =>
      -- the entry reads, so the rest decides
      cases rest.find? (fun n => (Capability.parse? n).isNone) <;> rfl

/-- **Capabilities named by the caller.** The capability reader accepts a text as `c` exactly when
the text names `c`. The caller's capability list reads as the capabilities of its non-blank
entries, in order and with duplicates kept, unless some non-blank entry names no capability: then
it is refused with the first such entry, as the caller wrote it. -/
theorem capabilities_named_leniently :
    (∀ s c, Capability.parse? s = some c ↔ Capability.Names s c) ∧
    (∀ ns, parseCapabilities ns =
      match (ns.filter fun n => !(Text.trim n).isEmpty).find? (fun n => (Capability.parse? n).isNone) with
      | some e => Except.error (AccessError.invalidCapability e)
      | none => Except.ok ((ns.filter fun n => !(Text.trim n).isEmpty).filterMap Capability.parse?)) :=
  ⟨Capability.parse?_eq_some_iff, fun _ => mapM_parseCapability _⟩

example : parseCapabilities ["Image", " ", "capability-prompt-cache", "IMAGES"] =
    .ok [.images, .promptCache, .images] := by
  rfl

example : parseCapabilities ["text", "", "bogus ", "x"] = .error (.invalidCapability "bogus ") := by
  rfl

end Warden
