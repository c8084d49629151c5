import Warden.Proofs.JsonRead

/-!
# Records read back

A record is written as a compact object, its members in declaration order, and read back by
name. Reading goes member by member: the key, a colon, and the value, which the field of that
name reads into the record. So the record read back is the one the member reads lead to from the
record's initial value (`Follows`), provided every key names a field, no key comes twice, and
every required field is among the keys (`Shape.read_compact_obj`). A member read that may fail
makes the whole read one that may fail, under the same condition.
-/

namespace Warden

namespace Json

/-- The bytes of one member of a compact object: its key, a colon, and its value. -/
def memberBytes (m : String × Json) : List UInt8 :=
  Text.encodeUtf8 (quote m.1) ++ 58 :: Text.encodeUtf8 (compact m.2)

/-- The members of a compact object after the first, each after its comma. -/
def restBytes (ms : List (String × Json)) : List UInt8 := ms.flatMap fun m => 44 :: memberBytes m

@[simp] theorem restBytes_nil : restBytes [] = [] := rfl

@[simp] theorem restBytes_cons (m : String × Json) (ms : List (String × Json)) :
    restBytes (m :: ms) = 44 :: (memberBytes m ++ restBytes ms) := rfl

theorem encodeUtf8_colon : Text.encodeUtf8 ":" = [58] := rfl

theorem encodeUtf8_comma : Text.encodeUtf8 "," = [44] := rfl

theorem encodeUtf8_compactFields (m : String × Json) (ms : List (String × Json)) :
    Text.encodeUtf8 (compactFields (m :: ms)) = memberBytes m ++ restBytes ms := by
  induction ms generalizing m with
  | nil =>
    rw [compactFields, Text.encodeUtf8_append, Text.encodeUtf8_append, encodeUtf8_colon]
    simp [restBytes, memberBytes]
  | cons m' ms ih =>
    rw [compactFields.eq_3 _ _ _ (List.cons_ne_nil _ _), Text.encodeUtf8_append, Text.encodeUtf8_append,
      Text.encodeUtf8_append, Text.encodeUtf8_append, ih, encodeUtf8_colon, encodeUtf8_comma]
    simp [restBytes, memberBytes]

/-! ## The steps of an object -/

section Steps

variable {c : Cursor} {more : List UInt8}

theorem outcome_colon (h : c.rest = 58 :: more) : outcome colon c = (.ok (), c.advance) := by
  rw [colon, outcome_bind_ok (outcome_skipBlank h (by decide))]
  rfl

/-- The first member's key starts right away. -/
theorem outcome_nextKey_first (h : c.rest = 34 :: more) : outcome (nextKey true) c = (.ok true, c) := by
  rw [nextKey, outcome_bind_ok (outcome_skipBlank h (by decide))]
  rfl

/-- Every later member's key starts after a comma. -/
theorem outcome_nextKey_comma (h : c.rest = 44 :: 34 :: more) : outcome (nextKey false) c = (.ok true, c.advance) := by
  have hnext : c.advance.rest = 34 :: more := by rw [Cursor.advance_rest, h]; rfl
  rw [nextKey, outcome_bind_ok (outcome_skipBlank h (by decide))]
  dsimp only
  rw [if_neg (show (44 : UInt8) ≠ byte '}' by decide), if_neg Bool.false_ne_true,
    if_pos (show (44 : UInt8) = byte ',' from rfl), outcome_bind_ok (outcome_eat c),
    outcome_bind_ok (outcome_skipBlank hnext (by decide))]
  rfl

/-- The closing brace ends the members. -/
theorem outcome_nextKey_close (first : Bool) (h : c.rest = 125 :: more) :
    outcome (nextKey first) c = (.ok false, c) := by
  rw [nextKey, outcome_bind_ok (outcome_skipBlank h (by decide))]
  rfl

theorem outcome_closeObject (h : c.rest = 125 :: more) : outcome closeObject c = (.ok (), c.advance) := by
  rw [closeObject, outcome_bind_ok (outcome_skipBlank h (by decide))]
  rfl

/-- An attempt answers what the reader did, as a value, and stops where it stopped. -/
theorem outcome_attempt {α : Type} (r : Reader α) (c : Cursor) :
    outcome (attempt r) c = (.ok (outcome r c).1, (outcome r c).2) := by
  rw [attempt, outcome_tryCatch]
  rcases h : outcome r c with ⟨_ | a, c'⟩
  · rw [outcome_map_error h]
    rfl
  · rw [outcome_map_ok h]

section Enter

variable {α : Type} {contents : Reader α} {close : Reader Unit} {c c' c'' : Cursor}

/-- A container whose contents are read and whose end is closed answers what its contents
answered. -/
theorem outcome_enter_ok {v : α} (hd : c.depth - 1 ≠ 0)
    (hrun : outcome contents ({ c with depth := c.depth - 1 } : Cursor).advance = (.ok v, c'))
    (hclose : outcome close { c' with depth := c'.depth + 1 } = (.ok (), c'')) :
    outcome (enter contents close) c = (.ok v, c'') := by
  rw [enter, outcome_bind_ok (outcome_get c), outcome_bind_ok (outcome_modify _ c)]
  simp only [if_neg hd]
  rw [outcome_bind_ok (outcome_eat _), outcome_bind_ok (outcome_attempt _ _), hrun,
    outcome_bind_ok (outcome_modify _ _), outcome_bind_ok (outcome_attempt _ _), hclose]
  rfl

/-- A container whose contents fail fails. -/
theorem outcome_enter_error {e : JsonError}
    (herr : outcome contents ({ c with depth := c.depth - 1 } : Cursor).advance = (.error e, c')) :
    ∃ e' c'', outcome (enter contents close) c = (.error e', c'') := by
  rw [enter, outcome_bind_ok (outcome_get c), outcome_bind_ok (outcome_modify _ c)]
  by_cases hd : c.depth - 1 = 0
  · simp only [if_pos hd]
    exact ⟨_, _, rfl⟩
  · simp only [if_neg hd]
    rw [outcome_bind_ok (outcome_eat _), outcome_bind_ok (outcome_attempt _ _), herr,
      outcome_bind_ok (outcome_modify _ _), outcome_bind_ok (outcome_attempt _ _)]
    exact ⟨_, _, rfl⟩

end Enter

/-- Entering a container takes one level of nesting for its contents, and gives it back at the
closing bracket: the container reads what its contents read, up to the bracket. -/
theorem Reads.enter_of {α : Type} {F : Prop} {need : Nat} {contents : Reader α} {close : Reader Unit}
    {o k : UInt8} {inner : List UInt8} {P : α → Prop}
    (hclose : ∀ c more, c.rest = k :: more → outcome close c = (.ok (), c.advance))
    (h : ∀ c more, c.rest = inner ++ k :: more → need < c.depth →
      (∃ v, P v ∧ outcome contents c = (.ok v, c.advanceBy inner.length)) ∨
        (F ∧ ∃ e c', outcome contents c = (.error e, c'))) :
    Reads F (need + 1) (enter contents close) (o :: inner ++ [k]) P := by
  intro c more hc _ hdepth
  have hinner : ({ c with depth := c.depth - 1 } : Cursor).advance.rest = inner ++ k :: more := by
    rw [Cursor.advance_rest]
    show c.rest.tail = _
    simp [hc]
  rcases h _ more hinner (by simp; omega) with ⟨v, hv, hrun⟩ | ⟨hf, e, c', herr⟩
  · -- the contents were read, with one level fewer; the bracket closes the container
    refine .inl ⟨v, hv, outcome_enter_ok (by omega) hrun ?_⟩
    have hback : ∀ c' : Cursor, c' = ({ c with depth := c.depth - 1 } : Cursor).advance.advanceBy inner.length →
        ({ c' with depth := c'.depth + 1 } : Cursor) = c.advanceBy (inner.length + 1) := by
      rintro c' rfl
      rw [← Cursor.advanceBy_succ, Cursor.advanceBy_withDepth]
      have hdep := Cursor.advanceBy_depth c (inner.length + 1)
      generalize c.advanceBy (inner.length + 1) = c₁ at hdep ⊢
      cases c₁
      simp only at hdep ⊢
      congr 1
      omega
    have hclosing : (c.advanceBy (inner.length + 1)).rest = k :: more := by
      rw [Cursor.advanceBy_rest, hc]
      simp
    rw [hback _ rfl, hclose _ _ hclosing, ← Cursor.advanceBy_one, ← Cursor.advanceBy_add]
    simp
  · exact .inr ⟨hf, outcome_enter_error herr⟩

/-- Entering an object takes one level of nesting for its contents, and gives it back at the
closing brace: the object reads what its contents read, up to the brace. -/
theorem Reads.enter_obj {α : Type} {F : Prop} {need : Nat} {contents : Reader α} {inner : List UInt8}
    {P : α → Prop}
    (h : ∀ c more, c.rest = inner ++ 125 :: more → need < c.depth →
      (∃ v, P v ∧ outcome contents c = (.ok v, c.advanceBy inner.length)) ∨
        (F ∧ ∃ e c', outcome contents c = (.error e, c'))) :
    Reads F (need + 1) (enter contents closeObject) (123 :: inner ++ [125]) P :=
  Reads.enter_of (fun _ _ hc => outcome_closeObject hc) h

end Steps

/-! ## Members -/

/-- The values a record goes through as its members are read in order, each read relating the
value before it to the one after. -/
def Follows {σ : Type} (R : String × Json → σ → σ → Prop) : σ → List (String × Json) → σ → Prop
  | st, [], st' => st' = st
  | st, m :: ms, st' => ∃ mid, R m st mid ∧ Follows R mid ms st'

/-- How a record's reader takes one member: the field its key names reads the value into the
record, or, when the key names no field, the value is skipped and the record kept as it is. -/
def Shape.Takes {σ : Type} (s : Shape σ) (F : Prop) (need : Nat) (R : String × Json → σ → σ → Prop)
    (m : String × Json) : Prop :=
  match s.find? m.1 with
  | some f => ∀ st, Reads F need (f.read st) (Text.encodeUtf8 (compact m.2)) (R m st)
  | none => Reads F need skip (Text.encodeUtf8 (compact m.2)) (fun _ => True) ∧ ∀ st, R m st st

section Members

variable {σ : Type} {s : Shape σ} {F : Prop} {need : Nat} {c : Cursor} {more : List UInt8}

/-- A member whose key names a field not yet seen is read by that field, after the colon. -/
theorem outcome_entry {k : String} {f : Field σ} {st : σ} {seen : List String} {vb : List UInt8}
    {P : σ → Prop} (hfind : s.find? k = some f) (hseen : seen.contains k = false)
    (hc : c.rest = 58 :: vb ++ more) (hmore : Delimited more) (hdepth : need < c.depth)
    (hread : Reads F need (f.read st) vb P) :
    (∃ mid, P mid ∧ outcome (s.entry k (st, seen)) c = (.ok (mid, k :: seen), c.advanceBy (vb.length + 1))) ∨
      (F ∧ ∃ e c', outcome (s.entry k (st, seen)) c = (.error e, c')) := by
  have hvalue : c.advance.rest = vb ++ more := by rw [Cursor.advance_rest, hc]; rfl
  have hentry : outcome (s.entry k (st, seen)) c =
      outcome (f.read st >>= fun v => pure (v, k :: seen)) c.advance := by
    rw [Shape.entry, hfind]
    simp only [hseen, Bool.false_eq_true, if_false]
    rw [outcome_bind_ok (outcome_colon (hc.trans (List.cons_append ..)))]
  rw [hentry]
  rcases hread c.advance more hvalue hmore (by simpa using hdepth) with ⟨mid, hmid, hrun⟩ | ⟨hf, e, c', herr⟩
  · refine .inl ⟨mid, hmid, ?_⟩
    rw [outcome_bind_ok hrun, Nat.add_comm, Cursor.advanceBy_add, Cursor.advanceBy_one]
    rfl
  · exact .inr ⟨hf, e, c', by rw [outcome_bind_error herr]⟩

/-- A member whose key names no field is skipped, after the colon, and the record kept. -/
theorem outcome_entry_unknown {k : String} {st : σ} {seen : List String} {vb : List UInt8}
    (hfind : s.find? k = none) (hc : c.rest = 58 :: vb ++ more) (hmore : Delimited more)
    (hdepth : need < c.depth) (hskip : Reads F need skip vb (fun _ => True)) :
    outcome (s.entry k (st, seen)) c = (.ok (st, seen), c.advanceBy (vb.length + 1)) ∨
      (F ∧ ∃ e c', outcome (s.entry k (st, seen)) c = (.error e, c')) := by
  have hvalue : c.advance.rest = vb ++ more := by rw [Cursor.advance_rest, hc]; rfl
  rw [Shape.entry, hfind]
  dsimp only
  rw [outcome_bind_ok (outcome_colon (hc.trans (List.cons_append ..)))]
  rcases hskip c.advance more hvalue hmore (by simpa using hdepth) with ⟨_, -, hrun⟩ | ⟨hf, e, c', herr⟩
  · refine .inl ?_
    rw [outcome_bind_ok hrun, Nat.add_comm, Cursor.advanceBy_add, Cursor.advanceBy_one]
    rfl
  · exact .inr ⟨hf, e, c', by rw [outcome_bind_error herr]⟩

/-- A member, key and value, whose key was not seen before, and then whatever follows; its key
is recorded as seen when it names a field. -/
theorem outcome_member {β : Type} {R : String × Json → σ → σ → Prop} {m : String × Json} (st : σ)
    {seen : List String} {rest : List UInt8} (g : σ × List String → Reader β) (htakes : s.Takes F need R m)
    (hseen : seen.contains m.1 = false) (hc : c.rest = memberBytes m ++ rest) (hrest : Delimited rest)
    (hdepth : need < c.depth) :
    (∃ mid, R m st mid ∧ outcome (key >>= fun k => s.entry k (st, seen) >>= g) c =
        outcome (g (mid, if (s.find? m.1).isSome then m.1 :: seen else seen))
          (c.advanceBy (memberBytes m).length)) ∨
      (F ∧ ∃ e c', outcome (key >>= fun k => s.entry k (st, seen) >>= g) c = (.error e, c')) := by
  have hsplit : c.rest = Text.encodeUtf8 (quote m.1) ++ (58 :: Text.encodeUtf8 (compact m.2) ++ rest) := by
    rw [hc, memberBytes, List.append_assoc]
  have hcolon : (c.advanceBy (Text.encodeUtf8 (quote m.1)).length).rest =
      58 :: Text.encodeUtf8 (compact m.2) ++ rest :=
    Cursor.advanceBy_append c hsplit
  have hlen : (c.advanceBy (Text.encodeUtf8 (quote m.1)).length).advanceBy
      ((Text.encodeUtf8 (compact m.2)).length + 1) = c.advanceBy (memberBytes m).length := by
    rw [← Cursor.advanceBy_add, memberBytes, List.length_append, List.length_cons]
  rw [outcome_bind_ok (outcome_key m.1 hsplit)]
  cases hfind : s.find? m.1 with
  | some f =>
    rw [Shape.Takes, hfind] at htakes
    rcases outcome_entry hfind hseen hcolon hrest (by simpa using hdepth) (htakes st) with
      ⟨mid, hmid, hrun⟩ | ⟨hf, e, c', herr⟩
    · exact .inl ⟨mid, hmid, by rw [outcome_bind_ok hrun, hlen]; rfl⟩
    · exact .inr ⟨hf, e, c', outcome_bind_error herr _⟩
  | none =>
    rw [Shape.Takes, hfind] at htakes
    rcases outcome_entry_unknown hfind hcolon hrest (by simpa using hdepth) htakes.1 with hrun | ⟨hf, e, c', herr⟩
    · exact .inl ⟨st, htakes.2 st, by rw [outcome_bind_ok hrun, hlen]; rfl⟩
    · exact .inr ⟨hf, e, c', outcome_bind_error herr _⟩

theorem delimited_restBytes (ms : List (String × Json)) (more : List UInt8) :
    Delimited (restBytes ms ++ 125 :: more) := by
  intro b hb
  -- the first byte is a comma, or the closing brace when no member is left
  cases ms <;> simp at hb <;> simp [hb]

theorem contains_cons_of_ne {a b : String} {seen : List String} (hne : b ≠ a)
    (h : seen.contains b = false) : (a :: seen).contains b = false := by
  rw [List.contains_cons, h, Bool.or_false]
  simpa using hne

/-- The keys seen after a member: its own when it names a field, and those seen before. -/
theorem contains_seenAfter {m : String × Json} {seen : List String} {k : String} (hne : k ≠ m.1)
    (h : seen.contains k = false) :
    (if (s.find? m.1).isSome then m.1 :: seen else seen).contains k = false := by
  split
  · exact contains_cons_of_ne hne h
  · exact h

/-- The members after the first, each after its comma, are read in order up to the closing
brace, each by the field its key names or skipped; every key that names a field ends up seen. -/
theorem outcome_members_rest {R : String × Json → σ → σ → Prop} (ms : List (String × Json))
    (hfield : ∀ m ∈ ms, s.Takes F need R m) (hnodup : (ms.map (·.1)).Nodup) (st : σ) (seen : List String)
    (c : Cursor) (fuel : Nat) (hseen : ∀ m ∈ ms, seen.contains m.1 = false)
    (hc : c.rest = restBytes ms ++ 125 :: more) (hfuel : ms.length < fuel) (hdepth : need < c.depth) :
    (∃ st' seen', Follows R st ms st' ∧ (∀ k ∈ seen, k ∈ seen') ∧
        (∀ m ∈ ms, (s.find? m.1).isSome → m.1 ∈ seen') ∧
        outcome (members s.entry fuel false (st, seen)) c = (.ok (st', seen'), c.advanceBy (restBytes ms).length)) ∨
      (F ∧ ∃ e c', outcome (members s.entry fuel false (st, seen)) c = (.error e, c')) := by
  induction ms generalizing st seen c fuel with
  | nil =>
    obtain ⟨fuel, rfl⟩ : ∃ f, fuel = f + 1 := ⟨fuel - 1, by simp at hfuel; omega⟩
    refine .inl ⟨st, seen, rfl, fun _ h => h, by simp, ?_⟩
    rw [members, outcome_bind_ok (outcome_nextKey_close false hc)]
    rfl
  | cons m ms ih =>
    obtain ⟨fuel, rfl⟩ : ∃ f, fuel = f + 1 := ⟨fuel - 1, by simp at hfuel; omega⟩
    have hfirst : c.rest = 44 :: 34 :: (Text.encodeUtf8 (quote m.1)).tail ++ 58 :: Text.encodeUtf8 (compact m.2) ++
        restBytes ms ++ 125 :: more := by
      rw [hc, restBytes_cons, memberBytes, encodeUtf8_quote]
      simp
    have hmember : c.advance.rest = memberBytes m ++ (restBytes ms ++ 125 :: more) := by
      rw [Cursor.advance_rest, hc, restBytes_cons]
      simp
    rw [members, outcome_bind_ok (outcome_nextKey_comma hfirst)]
    simp only [if_true]
    rw [List.map_cons, List.nodup_cons] at hnodup
    rcases outcome_member st (members s.entry fuel false) (hfield m List.mem_cons_self) (hseen m List.mem_cons_self)
      hmember (delimited_restBytes ms more) (by simpa using hdepth) with ⟨mid, hmid, hrun⟩ | hfail
    · -- the first of these members was read; the others follow, with its key seen if it names a field
      have hseen' : ∀ m' ∈ ms, (if (s.find? m.1).isSome then m.1 :: seen else seen).contains m'.1 = false :=
        fun m' hm' => contains_seenAfter (fun h => hnodup.1 (h ▸ List.mem_map_of_mem hm'))
          (hseen m' (List.mem_cons_of_mem _ hm'))
      rcases ih (fun m' hm' => hfield m' (List.mem_cons_of_mem _ hm')) hnodup.2 mid _ _ fuel hseen'
        (Cursor.advanceBy_append _ hmember) (by simpa using hfuel) (by simpa using hdepth) with
        ⟨st', seen', hfollow, hkeep, hkeys, hrest⟩ | ⟨hf, herr⟩
      · have hlen : 1 + ((memberBytes m).length + (restBytes ms).length) = (restBytes (m :: ms)).length := by
          rw [restBytes_cons, List.length_cons, List.length_append]
          omega
        refine .inl ⟨st', seen', ⟨mid, hmid, hfollow⟩, fun k hk => hkeep k ?_, ?_, ?_⟩
        · split <;> simp [hk]
        · intro m' hm' hknown
          rcases List.mem_cons.1 hm' with rfl | hm'
          · exact hkeep _ (by rw [if_pos hknown]; exact List.mem_cons_self)
          · exact hkeys m' hm' hknown
        · rw [hrun, hrest, ← Cursor.advanceBy_one, ← Cursor.advanceBy_add, ← Cursor.advanceBy_add, hlen]
      · exact .inr ⟨hf, by rw [hrun]; exact herr⟩
    · exact .inr hfail

/-- Every member of a compact object takes at least one byte. -/
theorem length_le_compactFields (fs : List (String × Json)) :
    fs.length ≤ (Text.encodeUtf8 (compactFields fs)).length := by
  have hrest : ∀ ms : List (String × Json), ms.length ≤ (restBytes ms).length := by
    intro ms
    induction ms with
    | nil => simp
    | cons m ms ih => simp; omega
  cases fs with
  | nil => simp
  | cons m ms =>
    rw [encodeUtf8_compactFields, List.length_append, List.length_cons]
    have hm : 1 ≤ (memberBytes m).length := by rw [memberBytes, List.length_append, List.length_cons]; omega
    have := hrest ms
    omega

/-- All the members of an object, from the first, are read in order up to the closing brace. -/
theorem outcome_members {R : String × Json → σ → σ → Prop} (fs : List (String × Json))
    (hfield : ∀ m ∈ fs, s.Takes F need R m) (hnodup : (fs.map (·.1)).Nodup) (st : σ) (c : Cursor) (fuel : Nat)
    (hc : c.rest = Text.encodeUtf8 (compactFields fs) ++ 125 :: more)
    (hfuel : fs.length < fuel) (hdepth : need < c.depth) :
    (∃ st' seen', Follows R st fs st' ∧ (∀ m ∈ fs, (s.find? m.1).isSome → m.1 ∈ seen') ∧
        outcome (members s.entry fuel true (st, [])) c =
          (.ok (st', seen'), c.advanceBy (Text.encodeUtf8 (compactFields fs)).length)) ∨
      (F ∧ ∃ e c', outcome (members s.entry fuel true (st, [])) c = (.error e, c')) := by
  obtain ⟨fuel, rfl⟩ : ∃ f, fuel = f + 1 := ⟨fuel - 1, by omega⟩
  cases fs with
  | nil =>
    refine .inl ⟨st, [], rfl, by simp, ?_⟩
    rw [members, outcome_bind_ok (outcome_nextKey_close true hc)]
    rfl
  | cons m ms =>
    rw [encodeUtf8_compactFields] at hc ⊢
    obtain ⟨X, hX⟩ : ∃ X, Text.encodeUtf8 (quote m.1) = 34 :: X :=
      ⟨_, by rw [encodeUtf8_quote, List.cons_append]⟩
    have hfirst : c.rest = 34 :: (X ++ 58 :: Text.encodeUtf8 (compact m.2) ++ restBytes ms ++ 125 :: more) := by
      rw [hc, memberBytes, hX]
      simp
    have hmember : c.rest = memberBytes m ++ (restBytes ms ++ 125 :: more) := by
      rw [hc, List.append_assoc]
    rw [members, outcome_bind_ok (outcome_nextKey_first hfirst)]
    simp only [if_true]
    rw [List.map_cons, List.nodup_cons] at hnodup
    rcases outcome_member st (members s.entry fuel false) (hfield m List.mem_cons_self)
      (show ([] : List String).contains m.1 = false from rfl) hmember (delimited_restBytes ms more) hdepth with ⟨mid, hmid, hrun⟩ | hfail
    · -- the first member was read; the others follow its comma, with its key seen if it names a field
      have hseen : ∀ m' ∈ ms, (if (s.find? m.1).isSome then [m.1] else []).contains m'.1 = false := fun m' hm' =>
        contains_seenAfter (fun h => hnodup.1 (h ▸ List.mem_map_of_mem hm')) rfl
      rcases outcome_members_rest ms (fun m' hm' => hfield m' (List.mem_cons_of_mem _ hm')) hnodup.2 mid _
        _ fuel hseen (Cursor.advanceBy_append _ hmember) (by simpa using hfuel) (by simpa using hdepth) with
        ⟨st', seen', hfollow, hkeep, hkeys, hrest⟩ | ⟨hf, herr⟩
      · refine .inl ⟨st', seen', ⟨mid, hmid, hfollow⟩, ?_, ?_⟩
        · intro m' hm' hknown
          rcases List.mem_cons.1 hm' with rfl | hm'
          · exact hkeep _ (by rw [if_pos hknown]; exact List.mem_singleton_self _)
          · exact hkeys m' hm' hknown
        · rw [hrun, hrest, ← Cursor.advanceBy_add, List.length_append]
      · exact .inr ⟨hf, by rw [hrun]; exact herr⟩
    · exact .inr hfail

/-- No field is missing when every required one is among the keys. -/
theorem firstMissing_eq_none {seen : List String}
    (h : ∀ f ∈ s.fields, f.absent = .required → f.name ∈ seen) : s.firstMissing seen = none := by
  rw [Shape.firstMissing, Option.map_eq_none_iff, List.find?_eq_none]
  intro f hf
  by_cases hreq : f.absent = .required
  · simpa [hreq] using h f hf hreq
  · simp [hreq]

/-- A field of the record is found by its name. -/
theorem find?_isSome_of_mem {f : Field σ} (hf : f ∈ s.fields) : (s.find? f.name).isSome := by
  rw [Shape.find?, List.find?_isSome]
  exact ⟨f, hf, by simp⟩

/-- The members of a record's object, read by name, build the record the member reads lead to
from its initial value. -/
theorem outcome_byName {R : String × Json → σ → σ → Prop} (fs : List (String × Json))
    (hfield : ∀ m ∈ fs, s.Takes F need R m) (hnodup : (fs.map (·.1)).Nodup)
    (hreq : ∀ f ∈ s.fields, f.absent = .required → f.name ∈ fs.map (·.1))
    (hc : c.rest = Text.encodeUtf8 (compactFields fs) ++ 125 :: more) (hdepth : need < c.depth) :
    (∃ st', Follows R s.init fs st' ∧
        outcome s.byName c = (.ok st', c.advanceBy (Text.encodeUtf8 (compactFields fs)).length)) ∨
      (F ∧ ∃ e c', outcome s.byName c = (.error e, c')) := by
  have hfuel : fs.length < c.rest.length + 1 := by
    have := length_le_compactFields fs
    rw [hc, List.length_append, List.length_cons]
    omega
  have hrounds : outcome roundsLeft c = (.ok (c.rest.length + 1), c) := rfl
  rw [Shape.byName, outcome_bind_ok hrounds]
  rcases outcome_members fs hfield hnodup s.init c _ hc hfuel hdepth with
    ⟨st', seen', hfollow, hkeys, hrun⟩ | ⟨hf, e, c', herr⟩
  · refine .inl ⟨st', hfollow, ?_⟩
    -- a required field was given under its own name, which names a field, so it was seen
    have hnone : s.firstMissing seen' = none := firstMissing_eq_none fun f hf hr => by
      obtain ⟨m, hm, hname⟩ := List.mem_map.1 (hreq f hf hr)
      rw [← hname]
      exact hkeys m hm (hname ▸ find?_isSome_of_mem hf)
    rw [outcome_bind_ok hrun]
    simp only [hnone]
    rfl
  · exact .inr ⟨hf, e, c', outcome_bind_error herr _⟩

end Members

theorem encodeUtf8_compact_obj (fs : List (String × Json)) :
    Text.encodeUtf8 (compact (.obj fs)) = 123 :: Text.encodeUtf8 (compactFields fs) ++ [125] := by
  rw [compact, Text.encodeUtf8_append, Text.encodeUtf8_append]
  rfl

/-- **Records read back, unknown keys skipped.** A record written as a compact object reads back
as the record its member reads lead to, when every key either names a field that reads its value
or names none and its value is skipped, no key comes twice and every required field is given; it
fails only where a member read may fail. -/
theorem Shape.read_compact_obj_takes {σ : Type} {s : Shape σ} {F : Prop} {need : Nat}
    (R : String × Json → σ → σ → Prop) (fs : List (String × Json)) (hfield : ∀ m ∈ fs, s.Takes F need R m)
    (hnodup : (fs.map (·.1)).Nodup) (hreq : ∀ f ∈ s.fields, f.absent = .required → f.name ∈ fs.map (·.1)) :
    Reads F (need + 1) s.read (Text.encodeUtf8 (compact (.obj fs))) (Follows R s.init fs) := by
  rw [encodeUtf8_compact_obj]
  refine Reads.typed (by decide) ?_
  show Reads F (need + 1) (if (123 : UInt8) = byte '{' then enter s.byName closeObject
    else if (123 : UInt8) = byte '[' then enter (s.byPosition s.fields 0 s.init) closeList
    else wrongKind s.expected) _ _
  rw [if_pos (show (123 : UInt8) = byte '{' from rfl)]
  exact Reads.enter_obj fun c more hc hdepth => outcome_byName fs hfield hnodup hreq hc hdepth

/-- **Records read back.** A record written as a compact object reads back as the record its
member reads lead to, when every key names a field, no key comes twice and every required field
is given; it fails only where a member read may fail. -/
theorem Shape.read_compact_obj {σ : Type} {s : Shape σ} {F : Prop} {need : Nat}
    (R : String × Json → σ → σ → Prop) (fs : List (String × Json))
    (hfield : ∀ m ∈ fs, ∃ f, s.find? m.1 = some f ∧
      ∀ st, Reads F need (f.read st) (Text.encodeUtf8 (compact m.2)) (R m st))
    (hnodup : (fs.map (·.1)).Nodup) (hreq : ∀ f ∈ s.fields, f.absent = .required → f.name ∈ fs.map (·.1)) :
    Reads F (need + 1) s.read (Text.encodeUtf8 (compact (.obj fs))) (Follows R s.init fs) := by
  refine Shape.read_compact_obj_takes R fs (fun m hm => ?_) hnodup hreq
  obtain ⟨f, hfind, hread⟩ := hfield m hm
  rw [Shape.Takes, hfind]
  exact hread

/-- A field read that sets one part of the record to what a value reads back as. -/
theorem Reads.update {α σ : Type} {F F' : Prop} {need need' : Nat} {r : Reader α} {bytes : List UInt8}
    {x : α} (h : Reads F need r bytes (· = x)) (set : α → σ) {Q : σ → Prop} (hQ : Q (set x))
    (hF : F → F') (hneed : need ≤ need') :
    Reads F' need' (r >>= fun a => pure (set a)) bytes Q :=
  (h.map set).mono hF hneed (by rintro _ ⟨a, rfl, rfl⟩; exact hQ)

/-! ## Timestamps and whole documents -/

theorem outcome_skipBlank_nil {c : Cursor} (h : c.rest = []) : outcome skipBlank c = (.ok none, c) := by
  rw [skipBlank, outcome_bind_ok (outcome_modify _ c), h, List.takeWhile_nil, List.length_nil,
    Cursor.advanceBy_zero, outcome_peek, h, List.head?_nil]

/-- A timestamp is read from a quoted text as the instant the calendar reads from the text; the
read fails only where the calendar refuses the text. -/
theorem readTimestamp_quote (s : String) :
    Reads (∃ e, Timestamp.ofRfc3339 s = .error e) 0 readTimestamp (Text.encodeUtf8 (quote s))
      (fun t => Timestamp.ofRfc3339 s = .ok t) := by
  have hq : Text.encodeUtf8 (quote s) =
      34 :: (s.toList.flatMap (fun ch => Text.encodeUtf8 (escapeChar ch)) ++ [34]) := by
    rw [encodeUtf8_quote, List.cons_append]
  rw [hq]
  refine Reads.typed (by decide) fun c more hc _ _ => ?_
  rw [← hq] at hc ⊢
  have hkey := outcome_key s hc
  rw [if_pos (show (34 : UInt8) = byte '"' from rfl), ← bind_assoc, ← key, outcome_bind_ok hkey]
  cases h : Timestamp.ofRfc3339 s with
  | ok t => exact .inl ⟨t, rfl, rfl⟩
  | error e => exact .inr ⟨⟨e, rfl⟩, _, _, rfl⟩

/-- A reader that reads some bytes reads them as a whole document. -/
theorem readDocument_of_reads {α : Type} {F : Prop} {need : Nat} {r : Reader α} {bytes : List UInt8}
    {P : α → Prop} (h : Reads F need r bytes P) (hneed : need < 128) :
    (∃ v, P v ∧ readDocument r bytes = .ok v) ∨ (F ∧ ∃ e, readDocument r bytes = .error e) := by
  have hc : (Cursor.start bytes).rest = bytes ++ [] := (List.append_nil _).symm
  rw [readDocument]
  rcases h _ [] hc (by simp [Delimited]) hneed with ⟨v, hv, hrun⟩ | ⟨hf, e, c', herr⟩
  · -- after the value only the end of the document is left
    have hskip := outcome_skipBlank_nil (Cursor.advanceBy_append _ hc)
    refine .inl ⟨v, hv, ?_⟩
    show (outcome _ _).1 = _
    rw [outcome_bind_ok hrun, outcome_bind_ok hskip]
    rfl
  · refine .inr ⟨hf, e, ?_⟩
    show (outcome _ _).1 = _
    rw [outcome_bind_error herr]

/-- A reader that reads a text's bytes reads the text as a whole document. -/
theorem readText_of_reads {α : Type} {F : Prop} {need : Nat} {r : Reader α} {s : String} {P : α → Prop}
    (h : Reads F need r (Text.encodeUtf8 s) P) (hneed : need < 128) :
    (∃ v, P v ∧ readText r s = .ok v) ∨ (F ∧ ∃ e, readText r s = .error e) := by
  rw [readText, Text.toUTF8_toList]
  exact readDocument_of_reads h hneed

end Json

end Warden
