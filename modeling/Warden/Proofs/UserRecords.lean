import Warden.Proofs.Calendar
import Warden.Proofs.JsonRecords
import Warden.Store.Users

/-!
# Users and login information read back

The durable directory keeps each user and each login information as the compact text of its
record, and decodes it again on every read. A record reads back as itself: a login information
always (`LoginInfo.decode_toJson`), and a user whenever its two instants are ones a date can carry
(`User.decode_toJson`), which is what the calendar needs to write an instant and read it back.

Each record is one instance of `Json.Shape.read_compact_obj`, as the stored sessions are. What is
new here are the values of its members: booleans and `null` read back through their keywords, an
optional text through `null` or the text, an array through its items in order, a role through its
name, and an instant through its RFC 3339 text.

## The values of the members

* `readBool_compact`, `readOption_ofOption`: a keyword is read byte by byte (`outcome_keyword`).
* `readList_compact`: an array of values reads back as the list of values; the items are read one
  after the other up to the closing bracket (`outcome_items`), inside a container that takes one
  level of nesting (`Reads.enter_of`).
* `Role.readStored_toJson`: the lenient reading of a role takes a role's own name to the role.
* `readTimestamp_rfc3339`: an instant a date can carry reads back from its text.
-/

namespace Warden

namespace Json

section Values

variable {c : Cursor} {more : List UInt8}

/-! ## Keywords -/

/-- The rest of a keyword is read byte by byte. -/
theorem outcome_keyword {es : List UInt8} (h : c.rest = es ++ more) :
    outcome (keyword es) c = (.ok (), c.advanceBy es.length) := by
  induction es generalizing c with
  | nil => rfl
  | cons e es ih =>
    have hnext : c.advance.rest = es ++ more := by rw [Cursor.advance_rest, h]; rfl
    rw [keyword, outcome_bind_ok (outcome_next c), h]
    simp only [List.cons_append, List.head?_cons, if_true]
    rw [ih hnext, List.length_cons, Cursor.advanceBy_succ]

/-- A keyword given as text is read as its bytes. -/
theorem outcome_keyword_text {s : String} (h : c.rest = Text.encodeUtf8 s ++ more) :
    outcome (keyword (String.toUTF8 s).toList) c = (.ok (), c.advanceBy (Text.encodeUtf8 s).length) := by
  rw [Text.toUTF8_toList]
  exact outcome_keyword h

theorem encodeUtf8_true : Text.encodeUtf8 (compact (.bool true)) = [116, 114, 117, 101] := rfl

theorem encodeUtf8_false : Text.encodeUtf8 (compact (.bool false)) = [102, 97, 108, 115, 101] := rfl

theorem encodeUtf8_null : Text.encodeUtf8 (compact .null) = [110, 117, 108, 108] := rfl

/-- **Booleans read back.** -/
theorem readBool_compact (b : Bool) : Reads False 0 readBool (Text.encodeUtf8 (compact (.bool b))) (· = b) := by
  cases b with
  | false =>
    rw [encodeUtf8_false]
    refine Reads.typed (by decide) fun c more hc _ _ => .inl ⟨false, rfl, ?_⟩
    have hrest : c.advance.rest = Text.encodeUtf8 "alse" ++ more := by rw [Cursor.advance_rest, hc]; rfl
    show outcome (if (102 : UInt8) = byte 't' then _ else if (102 : UInt8) = byte 'f' then
      (do eat; keyword (String.toUTF8 "alse").toList; pure false) else wrongKind "a boolean") c = _
    rw [if_neg (by decide), if_pos (show (102 : UInt8) = byte 'f' from rfl), outcome_bind_ok (outcome_eat c),
      outcome_bind_ok (outcome_keyword_text hrest), outcome_pure, ← Cursor.advanceBy_one, ← Cursor.advanceBy_add]
    rfl
  | true =>
    rw [encodeUtf8_true]
    refine Reads.typed (by decide) fun c more hc _ _ => .inl ⟨true, rfl, ?_⟩
    have hrest : c.advance.rest = Text.encodeUtf8 "rue" ++ more := by rw [Cursor.advance_rest, hc]; rfl
    show outcome (if (116 : UInt8) = byte 't' then
      (do eat; keyword (String.toUTF8 "rue").toList; pure true) else _) c = _
    rw [if_pos (show (116 : UInt8) = byte 't' from rfl), outcome_bind_ok (outcome_eat c), outcome_bind_ok (outcome_keyword_text hrest), outcome_pure,
      ← Cursor.advanceBy_one, ← Cursor.advanceBy_add]
    rfl

/-- **Optional texts read back,** through `null` or the text. -/
theorem readOption_ofOption (s : Option String) :
    Reads False 0 (readOption readString) (Text.encodeUtf8 (compact (.ofOption s))) (· = s) := by
  intro c more hc hmore hdepth
  cases s with
  | none =>
    refine .inl ⟨none, rfl, ?_⟩
    rw [ofOption, encodeUtf8_null] at hc ⊢
    have hrest : c.advance.rest = Text.encodeUtf8 "ull" ++ more := by rw [Cursor.advance_rest, hc]; rfl
    rw [readOption, outcome_bind_ok (outcome_skipBlank (hc.trans (List.cons_append ..)) (by decide))]
    show outcome (if (110 : UInt8) = byte 'n' then
      (do eat; keyword (String.toUTF8 "ull").toList; pure none) else _) c = _
    rw [if_pos (show (110 : UInt8) = byte 'n' from rfl), outcome_bind_ok (outcome_eat c), outcome_bind_ok (outcome_keyword_text hrest), outcome_pure,
      ← Cursor.advanceBy_one, ← Cursor.advanceBy_add]
    rfl
  | some t =>
    rw [ofOption] at hc ⊢
    obtain ⟨X, hX⟩ : ∃ X, Text.encodeUtf8 (compact (.str t)) = 34 :: X :=
      ⟨_, by rw [compact, encodeUtf8_quote, List.cons_append]⟩
    rcases readString_quote t c more hc hmore hdepth with ⟨v, rfl, hrun⟩ | ⟨hf, -⟩
    · refine .inl ⟨some v, rfl, ?_⟩
      rw [hX] at hc
      rw [readOption, outcome_bind_ok (outcome_skipBlank (hc.trans (List.cons_append ..)) (by decide))]
      show outcome (if (34 : UInt8) = byte 'n' then _ else some <$> readString) c = _
      rw [if_neg (by decide), outcome_map_ok hrun]
      rfl
    · exact hf.elim

/-! ## Arrays -/

/-- The items of a compact array after the first, each after its comma. -/
def itemBytes (xs : List Json) : List UInt8 := xs.flatMap fun x => 44 :: Text.encodeUtf8 (compact x)

@[simp] theorem itemBytes_nil : itemBytes [] = [] := rfl

@[simp] theorem itemBytes_cons (x : Json) (xs : List Json) :
    itemBytes (x :: xs) = 44 :: (Text.encodeUtf8 (compact x) ++ itemBytes xs) := rfl

theorem encodeUtf8_compactItems (x : Json) (xs : List Json) :
    Text.encodeUtf8 (compactItems (x :: xs)) = Text.encodeUtf8 (compact x) ++ itemBytes xs := by
  induction xs generalizing x with
  | nil => simp [compactItems]
  | cons x' xs ih =>
    rw [compactItems.eq_3 _ _ (List.cons_ne_nil _ _), Text.encodeUtf8_append, Text.encodeUtf8_append, ih,
      encodeUtf8_comma]
    simp

/-- The text of a value starts with a byte that is no blank and does not close an array. -/
def Opens (bytes : List UInt8) : Prop := ∃ b bs, bytes = b :: bs ∧ isBlankByte b = false ∧ b ≠ 93

theorem opens_obj (fs : List (String × Json)) : Opens (Text.encodeUtf8 (compact (.obj fs))) :=
  ⟨123, _, by rw [encodeUtf8_compact_obj, List.cons_append], by decide, by decide⟩

/-- The first item starts right away. -/
theorem outcome_nextItem_first {b : UInt8} (h : c.rest = b :: more) (hb : isBlankByte b = false)
    (hclose : b ≠ 93) : outcome (nextItem true) c = (.ok true, c) := by
  rw [nextItem, outcome_bind_ok (outcome_skipBlank h hb)]
  dsimp only
  rw [if_neg (show b ≠ byte ']' from hclose)]
  rfl

/-- Every later item starts after a comma. -/
theorem outcome_nextItem_comma {b : UInt8} (h : c.rest = 44 :: b :: more) (hb : isBlankByte b = false)
    (hclose : b ≠ 93) : outcome (nextItem false) c = (.ok true, c.advance) := by
  have hnext : c.advance.rest = b :: more := by rw [Cursor.advance_rest, h]; rfl
  rw [nextItem, outcome_bind_ok (outcome_skipBlank h (by decide))]
  dsimp only
  rw [if_neg (show (44 : UInt8) ≠ byte ']' by decide), if_neg Bool.false_ne_true,
    if_pos (show (44 : UInt8) = byte ',' from rfl), outcome_bind_ok (outcome_eat c),
    outcome_bind_ok (outcome_skipBlank hnext hb)]
  dsimp only
  rw [if_neg (show b ≠ byte ']' from hclose)]
  rfl

/-- The closing bracket ends the items. -/
theorem outcome_nextItem_close (first : Bool) (h : c.rest = 93 :: more) :
    outcome (nextItem first) c = (.ok false, c) := by
  rw [nextItem, outcome_bind_ok (outcome_skipBlank h (by decide))]
  rfl

theorem outcome_closeList (h : c.rest = 93 :: more) : outcome closeList c = (.ok (), c.advance) := by
  rw [closeList, outcome_bind_ok (outcome_skipBlank h (by decide))]
  rfl

theorem delimited_itemBytes (xs : List Json) (more : List UInt8) : Delimited (itemBytes xs ++ 93 :: more) := by
  intro b hb
  -- the first byte is a comma, or the closing bracket when no item is left
  cases xs <;> simp at hb <;> simp [hb]

end Values

section Items

variable {α : Type} {F : Prop} {need : Nat} {elem : Reader α} {toJson : α → Json} {more : List UInt8}

/-- The items after the first, each after its comma, are read in order up to the closing
bracket. -/
theorem outcome_items_rest (ys : List α)
    (hread : ∀ y ∈ ys, Reads F need elem (Text.encodeUtf8 (compact (toJson y))) (· = y))
    (hopen : ∀ y ∈ ys, Opens (Text.encodeUtf8 (compact (toJson y)))) (acc : List α) (c : Cursor) (fuel : Nat)
    (hc : c.rest = itemBytes (ys.map toJson) ++ 93 :: more) (hfuel : ys.length < fuel) (hdepth : need < c.depth) :
    outcome (items elem fuel false acc) c =
        (.ok (acc.reverse ++ ys), c.advanceBy (itemBytes (ys.map toJson)).length) ∨
      (F ∧ ∃ e c', outcome (items elem fuel false acc) c = (.error e, c')) := by
  induction ys generalizing acc c fuel with
  | nil =>
    obtain ⟨fuel, rfl⟩ : ∃ f, fuel = f + 1 := ⟨fuel - 1, by simp at hfuel; omega⟩
    refine .inl ?_
    rw [items, outcome_bind_ok (outcome_nextItem_close false hc)]
    simp
  | cons y ys ih =>
    obtain ⟨fuel, rfl⟩ : ∃ f, fuel = f + 1 := ⟨fuel - 1, by simp at hfuel; omega⟩
    obtain ⟨b, bs, hbs, hb, hclose⟩ := hopen y List.mem_cons_self
    have hfirst : c.rest = 44 :: b :: (bs ++ itemBytes (ys.map toJson) ++ 93 :: more) := by
      rw [hc, List.map_cons, itemBytes_cons, hbs]
      simp
    have hitem : c.advance.rest =
        Text.encodeUtf8 (compact (toJson y)) ++ (itemBytes (ys.map toJson) ++ 93 :: more) := by
      rw [Cursor.advance_rest, hc, List.map_cons, itemBytes_cons]
      simp
    rw [items, outcome_bind_ok (outcome_nextItem_comma hfirst hb hclose)]
    simp only [if_true]
    rcases hread y List.mem_cons_self c.advance _ hitem (delimited_itemBytes _ more) (by simpa using hdepth) with
      ⟨v, rfl, hrun⟩ | ⟨hf, e, c', herr⟩
    · -- the first of these items was read; the others follow it
      rw [outcome_bind_ok hrun]
      rcases ih (fun y' hy' => hread y' (List.mem_cons_of_mem _ hy')) (fun y' hy' => hopen y' (List.mem_cons_of_mem _ hy'))
        (v :: acc) _ fuel (Cursor.advanceBy_append _ hitem) (by simpa using hfuel) (by simpa using hdepth) with
        hrest | hfail
      · refine .inl ?_
        have hlen : 1 + ((Text.encodeUtf8 (compact (toJson v))).length + (itemBytes (ys.map toJson)).length) =
            (itemBytes ((v :: ys).map toJson)).length := by
          rw [List.map_cons, itemBytes_cons, List.length_cons, List.length_append]
          omega
        rw [hrest, ← Cursor.advanceBy_one, ← Cursor.advanceBy_add, ← Cursor.advanceBy_add, hlen]
        simp
      · exact .inr hfail
    · exact .inr ⟨hf, e, c', by rw [outcome_bind_error herr]⟩

/-- All the items of an array, from the first, are read in order up to the closing bracket. -/
theorem outcome_items (ys : List α)
    (hread : ∀ y ∈ ys, Reads F need elem (Text.encodeUtf8 (compact (toJson y))) (· = y))
    (hopen : ∀ y ∈ ys, Opens (Text.encodeUtf8 (compact (toJson y)))) (c : Cursor) (fuel : Nat)
    (hc : c.rest = Text.encodeUtf8 (compactItems (ys.map toJson)) ++ 93 :: more) (hfuel : ys.length < fuel)
    (hdepth : need < c.depth) :
    outcome (items elem fuel true []) c =
        (.ok ys, c.advanceBy (Text.encodeUtf8 (compactItems (ys.map toJson))).length) ∨
      (F ∧ ∃ e c', outcome (items elem fuel true []) c = (.error e, c')) := by
  obtain ⟨fuel, rfl⟩ : ∃ f, fuel = f + 1 := ⟨fuel - 1, by omega⟩
  cases ys with
  | nil =>
    refine .inl ?_
    rw [items, outcome_bind_ok (outcome_nextItem_close true hc)]
    rfl
  | cons y ys =>
    rw [List.map_cons, encodeUtf8_compactItems] at hc ⊢
    obtain ⟨b, bs, hbs, hb, hclose⟩ := hopen y List.mem_cons_self
    have hfirst : c.rest = b :: (bs ++ itemBytes (ys.map toJson) ++ 93 :: more) := by
      rw [hc, hbs]
      simp
    have hitem : c.rest = Text.encodeUtf8 (compact (toJson y)) ++ (itemBytes (ys.map toJson) ++ 93 :: more) := by
      rw [hc, List.append_assoc]
    rw [items, outcome_bind_ok (outcome_nextItem_first hfirst hb hclose)]
    simp only [if_true]
    rcases hread y List.mem_cons_self c _ hitem (delimited_itemBytes _ more) hdepth with
      ⟨v, rfl, hrun⟩ | ⟨hf, e, c', herr⟩
    · -- the first item was read; the others follow its comma
      rw [outcome_bind_ok hrun]
      rcases outcome_items_rest ys (fun y' hy' => hread y' (List.mem_cons_of_mem _ hy'))
        (fun y' hy' => hopen y' (List.mem_cons_of_mem _ hy')) [v] _ fuel (Cursor.advanceBy_append _ hitem)
        (by simpa using hfuel) (by simpa using hdepth) with hrest | hfail
      · refine .inl ?_
        rw [hrest, ← Cursor.advanceBy_add, List.length_append]
        simp
      · exact .inr hfail
    · exact .inr ⟨hf, e, c', by rw [outcome_bind_error herr]⟩

/-- Every item of a compact array takes at least one byte. -/
theorem length_le_compactItems (ys : List α) (hopen : ∀ y ∈ ys, Opens (Text.encodeUtf8 (compact (toJson y)))) :
    ys.length ≤ (Text.encodeUtf8 (compactItems (ys.map toJson))).length := by
  have hrest : ∀ xs : List Json, xs.length ≤ (itemBytes xs).length := by
    intro xs
    induction xs with
    | nil => simp
    | cons x xs ih => simp; omega
  cases ys with
  | nil => simp
  | cons y ys =>
    obtain ⟨b, bs, hbs, -⟩ := hopen y List.mem_cons_self
    rw [List.map_cons, encodeUtf8_compactItems, List.length_append, hbs, List.length_cons, List.length_cons]
    have := hrest (ys.map toJson)
    simp only [List.length_map] at this
    omega

/-- **Arrays read back.** An array of values that each read back as themselves reads back as
their list, in order. -/
theorem readList_compact (ys : List α)
    (hread : ∀ y ∈ ys, Reads F need elem (Text.encodeUtf8 (compact (toJson y))) (· = y))
    (hopen : ∀ y ∈ ys, Opens (Text.encodeUtf8 (compact (toJson y)))) :
    Reads F (need + 1) (readList elem) (Text.encodeUtf8 (compact (.arr (ys.map toJson)))) (· = ys) := by
  have hbytes : Text.encodeUtf8 (compact (.arr (ys.map toJson))) =
      91 :: Text.encodeUtf8 (compactItems (ys.map toJson)) ++ [93] := by
    rw [compact, Text.encodeUtf8_append, Text.encodeUtf8_append]
    rfl
  rw [hbytes]
  refine Reads.typed (by decide) ?_
  show Reads F (need + 1) (if (91 : UInt8) = byte '[' then
    (roundsLeft >>= fun n => enter (items elem n true []) closeList) else wrongKind "a sequence") _ _
  rw [if_pos (show (91 : UInt8) = byte '[' from rfl)]
  intro c more hc hmore hdepth
  -- the fuel is counted before the bracket, and every item takes a byte
  have hfuel : ys.length < c.rest.length + 1 := by
    have := length_le_compactItems ys hopen
    rw [hc]
    simp only [List.length_cons, List.length_append, List.append_eq]
    omega
  have hrounds : outcome roundsLeft c = (.ok (c.rest.length + 1), c) := rfl
  rw [outcome_bind_ok hrounds]
  exact Reads.enter_of (P := (· = ys)) (fun _ _ h => outcome_closeList h)
    (fun c' _ hc' hdepth' => (outcome_items ys hread hopen c' _ hc' hfuel hdepth').imp_left fun h => ⟨ys, rfl, h⟩)
    c more hc hmore hdepth

end Items

/-! ## Instants -/

/-- An instant a date can carry reads back from its RFC 3339 text. -/
theorem readTimestamp_rfc3339 {t : Timestamp} (ht : t.Valid) :
    Reads False 0 readTimestamp (Text.encodeUtf8 (compact (.str t.rfc3339))) (· = t) := by
  have hback := Timestamp.ofRfc3339_rfc3339 ht
  refine (readTimestamp_quote t.rfc3339).mono ?_ le_rfl ?_
  · rintro ⟨e, he⟩
    rw [hback] at he
    cases he
  · intro v hv
    rw [hback] at hv
    exact (Except.ok.inj hv).symm

end Json

/-- A role reads back from its name through the lenient reading. -/
theorem Role.readStored_toJson (r : Role) :
    Json.Reads False 0 Role.readStored (Text.encodeUtf8 (Json.compact r.toJson)) (· = r) := by
  refine ((Json.readString_quote r.name).map Role.ofStored).mono id le_rfl ?_
  -- the name read back is the role's own, and the lenient reading takes it to the role
  intro b ⟨s, hs, hb⟩
  rw [hb, hs, Role.ofStored, Role.parse?_name, Option.getD_some]

namespace OAuthConnection

/-- A linked identity reads back as itself. -/
theorem read_toJson (c : OAuthConnection) :
    Json.Reads False 1 shape.read (Text.encodeUtf8 (Json.compact c.toJson)) (· = c) := by
  refine (Json.Shape.read_compact_obj
    (fun m st st' => st' =
      if m.1 = "provider" then { st with provider := c.provider } else { st with providerUserId := c.providerUserId })
    _ ?_ (by simp) (by simp [shape])).mono id le_rfl ?_
  · intro m hm
    simp only [List.mem_cons, List.not_mem_nil, or_false] at hm
    rcases hm with rfl | rfl
    · exact ⟨_, rfl, fun st => (Json.readString_quote c.provider).update _ (by simp) id le_rfl⟩
    · exact ⟨_, rfl, fun st => (Json.readString_quote c.providerUserId).update _ (by simp) id le_rfl⟩
  · rintro v ⟨mid, rfl, mid', rfl, rfl⟩
    simp

end OAuthConnection

namespace LoginInfo

/-- Login information reads back as itself. -/
theorem read_toJson (i : LoginInfo) :
    Json.Reads False 3 shape.read (Text.encodeUtf8 (Json.compact i.toJson)) (· = i) := by
  refine (Json.Shape.read_compact_obj
    (fun m st st' => st' =
      if m.1 = "user_id" then { st with userId := i.userId }
      else if m.1 = "email" then { st with email := i.email }
      else if m.1 = "github_id" then { st with githubId := i.githubId }
      else if m.1 = "password_enabled" then { st with passwordEnabled := i.passwordEnabled }
      else { st with connections := i.connections })
    _ ?_ (by simp) (by simp [shape])).mono id le_rfl ?_
  · intro m hm
    simp only [List.mem_cons, List.not_mem_nil, or_false] at hm
    rcases hm with rfl | rfl | rfl | rfl | rfl
    · exact ⟨_, rfl, fun st => (Json.readString_quote i.userId).update _ (by simp) id (Nat.zero_le _)⟩
    · exact ⟨_, rfl, fun st => (Json.readString_quote i.email).update _ (by simp) id (Nat.zero_le _)⟩
    · exact ⟨_, rfl, fun st => (Json.readOption_ofOption i.githubId).update _ (by simp) id (Nat.zero_le _)⟩
    · exact ⟨_, rfl, fun st => (Json.readBool_compact i.passwordEnabled).update _ (by simp) id (Nat.zero_le _)⟩
    · -- the linked identities are an array of records
      exact ⟨_, rfl, fun st => (Json.readList_compact i.connections (fun c _ => c.read_toJson)
        (fun c _ => Json.opens_obj _)).update _ (by simp) id le_rfl⟩
  · rintro v ⟨m₁, rfl, m₂, rfl, m₃, rfl, m₄, rfl, m₅, rfl, rfl⟩
    simp

/-- **Login information read back.** The text the durable directory keeps for login information
decodes to it. -/
theorem decode_toJson (i : LoginInfo) : decodeRecord shape.read (Json.compact i.toJson) = .ok i := by
  unfold decodeRecord
  rcases Json.readText_of_reads (read_toJson i) (by decide) with ⟨v, rfl, hread⟩ | ⟨hf, -⟩
  · rw [hread]
  · exact hf.elim

end LoginInfo

namespace User

/-- Both instants of the user are ones a date can carry. -/
def Storable (u : User) : Prop := u.createdAt.Valid ∧ u.updatedAt.Valid

instance : DecidablePred Storable := fun _ => inferInstanceAs (Decidable (_ ∧ _))

/-- A user whose instants a date can carry reads back as itself. -/
theorem read_toJson {u : User} (hu : u.Storable) :
    Json.Reads False 1 shape.read (Text.encodeUtf8 (Json.compact u.toJson)) (· = u) := by
  refine (Json.Shape.read_compact_obj
    (fun m st st' => st' =
      if m.1 = "id" then { st with id := u.id }
      else if m.1 = "nickname" then { st with nickname := u.nickname }
      else if m.1 = "role" then { st with role := u.role }
      else if m.1 = "created_at" then { st with createdAt := u.createdAt }
      else { st with updatedAt := u.updatedAt })
    _ ?_ (by simp) (by simp [shape])).mono False.elim le_rfl ?_
  · intro m hm
    simp only [List.mem_cons, List.not_mem_nil, or_false] at hm
    rcases hm with rfl | rfl | rfl | rfl | rfl
    · exact ⟨_, rfl, fun st => (Json.readString_quote u.id).update _ (by simp) False.elim le_rfl⟩
    · exact ⟨_, rfl, fun st => (Json.readString_quote u.nickname).update _ (by simp) False.elim le_rfl⟩
    · exact ⟨_, rfl, fun st => (Role.readStored_toJson u.role).update _ (by simp) False.elim le_rfl⟩
    · exact ⟨_, rfl, fun st => (Json.readTimestamp_rfc3339 hu.1).update _ (by simp) False.elim le_rfl⟩
    · exact ⟨_, rfl, fun st => (Json.readTimestamp_rfc3339 hu.2).update _ (by simp) False.elim le_rfl⟩
  · rintro v ⟨m₁, rfl, m₂, rfl, m₃, rfl, m₄, rfl, m₅, rfl, rfl⟩
    simp

/-- **Users read back.** The text the durable directory keeps for a user whose instants a date can
carry decodes to that user. -/
theorem decode_toJson {u : User} (hu : u.Storable) : decodeRecord shape.read (Json.compact u.toJson) = .ok u := by
  unfold decodeRecord
  rcases Json.readText_of_reads (read_toJson hu) (by decide) with ⟨v, rfl, hread⟩ | ⟨hf, -⟩
  · rw [hread]
  · exact hf.elim

end User

end Warden
