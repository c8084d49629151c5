import Warden.Proofs.UserRecords
import Warden.Proofs.FloatText

/-!
# Values of any shape read back

The reader of values of any shape (`anyValue`, and `readAny` and `readObject` over it) takes
back what the compact writer writes, and the skipping reader (`skip`) passes over it, for every
value whose numbers the reader can take (`Readable`): integers of magnitude at most
`2^1024 - 6 · 2^970`, and finite floats in the binary64 format. Integers within 64 bits come back
as themselves; every other number comes back as a binary64 value, rounded on the way. What a
read keeps of a value is its `skeleton`: the whole value, with every rounded number made one.

The first reader counts nesting: a container takes one level for its contents, and a document
starts with 127 levels, so `Readable d v` also bounds the nesting of `v` by `d`, and the read
needs more than `d` levels left (`readsBack_of_readable`). The skipping reader counts no nesting
at all (`skipsOver_of_readable`).

## Fuel

Both readers run on fuel, one step for each value and each item or member, and are given twice
the length of the input. A value's text is at least as long as the steps it takes, so the
invariant carried down is that the fuel is past the length of the text still to read, the
closing bracket included (`ReadsBack`, `SkipsOver`).

## Strings

Skipping a string checks its escapes without decoding them. How a character is written
(`escapeChar_cases`) decides how it is passed over, as it decides how it is read.
-/

namespace Warden

namespace Json

open Binary64

/-- A value whose numbers the reader takes, integers of magnitude at most `2^1024 - 6 · 2^970`
and finite floats in the binary64 format, and whose containers nest at most `d` deep. -/
inductive Readable : Nat → Json → Prop where
  | null {d : Nat} : Readable d .null
  | bool {d : Nat} (b : Bool) : Readable d (.bool b)
  | int {d : Nat} {n : Int} (h : (n.natAbs : ℚ) ≤ 2 ^ 1024 - 6 * 2 ^ 970) : Readable d (.int n)
  | float {d : Nat} {v : Binary64} (h : v.InFormat) : Readable d (.float v)
  | str {d : Nat} (s : String) : Readable d (.str s)
  | arr {d : Nat} {xs : List Json} (h : ∀ x ∈ xs, Readable d x) : Readable (d + 1) (.arr xs)
  | obj {d : Nat} {fs : List (String × Json)} (h : ∀ m ∈ fs, Readable d m.2) : Readable (d + 1) (.obj fs)

/-- Every integer within 64 bits, signed or unsigned, is readable. -/
theorem Readable.int_of_bits {d : Nat} {n : Int} (lo : -9223372036854775808 ≤ n) (hi : n ≤ (u64Max : Int)) :
    Readable d (.int n) := by
  refine .int ?_
  have hn : n.natAbs ≤ 2 ^ 64 := by unfold u64Max at hi; omega
  have hq : (n.natAbs : ℚ) ≤ 2 ^ 64 := by exact_mod_cast hn
  have h64 : (2 : ℚ) ^ 64 ≤ 2 ^ 970 := pow_le_pow_right₀ (by norm_num) (by norm_num)
  have hX : (0 : ℚ) ≤ 2 ^ 970 := by positivity
  have h1024 : (2 : ℚ) ^ 1024 = 2 ^ 54 * 2 ^ 970 := by rw [← pow_add]
  rw [h1024]
  clear h1024
  generalize (2 : ℚ) ^ 970 = X at *
  generalize (2 : ℚ) ^ 64 = Y at *
  linarith

mutual

/-- What a read keeps of a value: all of it, but every number that comes back rounded, a float
or an integer past 64 bits, is made the same one. -/
def skeleton : Json → Json
  | .int n => if -9223372036854775808 ≤ n ∧ n ≤ (u64Max : Int) then .int n else .float .nan
  | .float _ => .float .nan
  | .arr xs => .arr (skeletonItems xs)
  | .obj fs => .obj (skeletonFields fs)
  | v => v

/-- The skeletons of array items. -/
def skeletonItems : List Json → List Json
  | [] => []
  | x :: xs => skeleton x :: skeletonItems xs

/-- The skeletons of object members' values, under their keys. -/
def skeletonFields : List (String × Json) → List (String × Json)
  | [] => []
  | (k, v) :: fs => (k, skeleton v) :: skeletonFields fs

end

/-- A number that a readable value holds is read back with its skeleton. -/
theorem writtenNumber_int_skeleton {n : Int} (hlim : (n.natAbs : ℚ) ≤ 2 ^ 1024 - 6 * 2 ^ 970) :
    WrittenNumber (.int n) (·.skeleton = (Json.int n).skeleton) := by
  by_cases hin : -9223372036854775808 ≤ n ∧ n ≤ (u64Max : Int)
  · exact (writtenNumber_int hin.1 hin.2).mono fun w hw => by rw [hw]
  · refine (writtenNumber_int_rounded hlim hin).mono ?_
    rintro _ ⟨x, rfl⟩
    rw [skeleton, skeleton, if_neg hin]

theorem writtenNumber_float_skeleton {v : Binary64} (hv : v.InFormat) :
    WrittenNumber (.float v) (·.skeleton = (Json.float v).skeleton) :=
  (writtenNumber_float hv).mono fun _ ⟨_, hw⟩ => by rw [hw]; rfl

theorem skeletonFields_eq_map (fs : List (String × Json)) :
    skeletonFields fs = fs.map fun m => (m.1, m.2.skeleton) := by
  induction fs with
  | nil => rfl
  | cons m fs ih =>
    obtain ⟨k, v⟩ := m
    rw [skeletonFields, ih]
    rfl

/-- The skeleton keeps texts, and makes nothing else one. -/
theorem skeleton_eq_str {w : Json} {u : String} : w.skeleton = .str u ↔ w = .str u := by
  cases w with
  | int n =>
    rw [skeleton]
    split_ifs <;> simp
  | _ => simp [skeleton]

/-- Objects with one skeleton hold the same text under every key: the last member with the key
is found at the same place in both, and a value is a text exactly when its skeleton is. -/
theorem field?_str_iff {gs fs : List (String × Json)} (h : skeletonFields gs = skeletonFields fs) (k u : String) :
    (Json.obj gs).field? k = some (.str u) ↔ (Json.obj fs).field? k = some (.str u) := by
  have hfind : ∀ hs : List (String × Json),
      ((Json.obj hs).field? k).map skeleton = ((skeletonFields hs).reverse.find? (·.1 == k)).map (·.2) := by
    intro hs
    rw [skeletonFields_eq_map, ← List.map_reverse, List.find?_map, field?]
    simp only [Option.map_map]
    rfl
  have hmap : ((Json.obj gs).field? k).map skeleton = ((Json.obj fs).field? k).map skeleton := by
    rw [hfind, hfind, h]
  have hstr : ∀ o : Option Json, o = some (.str u) ↔ o.map skeleton = some (.str u) := by
    intro o
    cases o <;> simp [skeleton_eq_str]
  rw [hstr, hmap, ← hstr]

theorem encodeUtf8_compact_arr (xs : List Json) :
    Text.encodeUtf8 (compact (.arr xs)) = 91 :: Text.encodeUtf8 (compactItems xs) ++ [93] := by
  rw [compact, Text.encodeUtf8_append, Text.encodeUtf8_append]
  rfl

theorem encodeUtf8_compact_str (s : String) :
    Text.encodeUtf8 (compact (.str s)) = 34 :: (s.toList.flatMap (fun ch => Text.encodeUtf8 (escapeChar ch)) ++ [34]) := by
  rw [compact, encodeUtf8_quote, List.cons_append]

/-- A number's text opens with a byte that is no blank and no closing bracket. -/
theorem opens_of_writtenNumber {v : Json} {P : Json → Prop} (hv : WrittenNumber v P) :
    Opens (Text.encodeUtf8 (compact v)) := by
  obtain ⟨b, bs, hbs, hb, h93, -⟩ := hv.head
  exact ⟨b, bs, hbs, hb, h93⟩

/-- The text of every readable value opens with a byte that is no blank and no closing
bracket. -/
theorem opens_compact {d : Nat} {v : Json} (hv : Readable d v) : Opens (Text.encodeUtf8 (compact v)) := by
  cases hv with
  | null => exact ⟨110, _, rfl, by decide, by decide⟩
  | bool b => cases b <;> exact ⟨_, _, rfl, by decide, by decide⟩
  | int h => exact opens_of_writtenNumber (writtenNumber_int_skeleton h)
  | float h => exact opens_of_writtenNumber (writtenNumber_float_skeleton h)
  | str s => exact ⟨34, _, encodeUtf8_compact_str s, by decide, by decide⟩
  | arr _ => exact ⟨91, _, by rw [encodeUtf8_compact_arr, List.cons_append], by decide, by decide⟩
  | obj _ => exact opens_obj _

/-! ## Scalars -/

section Scalars

variable {c : Cursor} {more : List UInt8}

/-- A keyword whose first byte is next is read whole, and the reader goes on right after it. -/
theorem outcome_eat_keyword_then {α : Type} {e : UInt8} {s : String} (k : Reader α)
    (h : c.rest = e :: Text.encodeUtf8 s ++ more) :
    outcome (do eat; keyword (String.toUTF8 s).toList; k) c = outcome k (c.advanceBy (e :: Text.encodeUtf8 s).length) := by
  have hrest : c.advance.rest = Text.encodeUtf8 s ++ more := by rw [Cursor.advance_rest, h]; rfl
  rw [outcome_bind_ok (outcome_eat c), outcome_bind_ok (outcome_keyword_text hrest), List.length_cons,
    Cursor.advanceBy_succ]

/-- A keyword whose first byte is next is read as its value. -/
theorem outcome_eat_keyword {α : Type} {e : UInt8} {s : String} (v : α)
    (h : c.rest = e :: Text.encodeUtf8 s ++ more) :
    outcome (do eat; keyword (String.toUTF8 s).toList; pure v : Reader α) c =
      (.ok v, c.advanceBy (e :: Text.encodeUtf8 s).length) := by
  rw [outcome_eat_keyword_then _ h, outcome_pure]

variable {f d : Nat}

theorem anyValue_null : Reads False d (anyValue (f + 1)) (Text.encodeUtf8 (compact .null)) (· = .null) := by
  rw [encodeUtf8_null, anyValue]
  refine Reads.typed (by decide) fun c more hc _ _ => .inl ⟨.null, rfl, ?_⟩
  simp +decide only [ite_true, ite_false]
  exact outcome_eat_keyword (s := "ull") _ hc

theorem anyValue_bool (b : Bool) : Reads False d (anyValue (f + 1)) (Text.encodeUtf8 (compact (.bool b))) (· = .bool b) := by
  cases b with
  | false =>
    rw [encodeUtf8_false, anyValue]
    refine Reads.typed (by decide) fun c more hc _ _ => .inl ⟨.bool false, rfl, ?_⟩
    simp +decide only [ite_true, ite_false]
    exact outcome_eat_keyword (s := "alse") _ hc
  | true =>
    rw [encodeUtf8_true, anyValue]
    refine Reads.typed (by decide) fun c more hc _ _ => .inl ⟨.bool true, rfl, ?_⟩
    simp +decide only [ite_true, ite_false]
    exact outcome_eat_keyword (s := "rue") _ hc

/-- A number is read by the reader of values as the number reader reads its digits, after its
minus sign when it has one. -/
theorem anyValue_written {v : Json} {P : Json → Prop} (hv : WrittenNumber v P) :
    Reads False d (anyValue (f + 1)) (Text.encodeUtf8 (compact v)) P := by
  obtain ⟨positive, bytes, htext, hnum⟩ := hv
  obtain ⟨b, bs, rfl, hb⟩ := hnum.head
  rw [htext, anyValue]
  cases positive with
  | true =>
    refine Reads.typed (isBlankByte_of_isDigitByte hb) fun c more hc hmore _ => ?_
    rw [if_neg (ne_of_isDigitByte hb (by decide)), if_neg (ne_of_isDigitByte hb (by decide)),
      if_neg (ne_of_isDigitByte hb (by decide)), if_neg (ne_of_isDigitByte hb (by decide)), if_pos hb]
    obtain ⟨w, hw, hrun⟩ := hnum.reads c more hc hmore
    exact .inl ⟨_, hw, outcome_map_ok hrun _⟩
  | false =>
    refine Reads.typed (by decide) fun c more hc hmore _ => ?_
    simp +decide only [ite_true, ite_false]
    have hrest : c.advance.rest = b :: bs ++ more := by rw [Cursor.advance_rest, hc]; rfl
    obtain ⟨w, hw, hrun⟩ := hnum.reads _ more hrest hmore
    refine .inl ⟨_, hw, ?_⟩
    rw [outcome_bind_ok (outcome_eat c), outcome_map_ok hrun]
    simp only [List.length_cons, Cursor.advanceBy_succ]

theorem anyValue_str (s : String) : Reads False d (anyValue (f + 1)) (Text.encodeUtf8 (compact (.str s))) (· = .str s) := by
  rw [encodeUtf8_compact_str, anyValue]
  refine Reads.typed (by decide) fun c more hc _ _ => .inl ⟨.str s, rfl, ?_⟩
  simp +decide only [ite_true, ite_false]
  rw [← encodeUtf8_compact_str, compact] at hc ⊢
  rw [← map_bind, ← key, outcome_map_ok (outcome_key s hc)]

end Scalars

/-! ## Containers -/

/-- The reader of values of any shape reads `v` back, up to its skeleton, from any fuel past its
length, with more than `need` containers left to open. -/
def ReadsBack (need : Nat) (v : Json) : Prop :=
  ∀ fuel, (Text.encodeUtf8 (compact v)).length < fuel →
    Reads False need (anyValue fuel) (Text.encodeUtf8 (compact v)) (·.skeleton = v.skeleton)

/-- A read whose answer is mapped reads the mapped answer. -/
theorem Reads.map_of {α β : Type} {F : Prop} {need : Nat} {r : Reader α} {bytes : List UInt8} {P : α → Prop}
    {Q : β → Prop} (h : Reads F need r bytes P) (g : α → β) (hPQ : ∀ x, P x → Q (g x)) :
    Reads F need (g <$> r) bytes Q := by
  intro c more hc hmore hdepth
  rcases h c more hc hmore hdepth with ⟨v, hv, hrun⟩ | ⟨hf, e, c', herr⟩
  · exact .inl ⟨g v, hPQ v hv, outcome_map_ok hrun g⟩
  · exact .inr ⟨hf, e, c', outcome_map_error herr g⟩

section Containers

variable {need : Nat} {more : List UInt8}

/-- The items after the first, each after its comma, are read in order up to the closing
bracket. -/
theorem outcome_anyItems_rest (xs : List Json) (hread : ∀ x ∈ xs, ReadsBack need x)
    (hopen : ∀ x ∈ xs, Opens (Text.encodeUtf8 (compact x))) (acc : List Json) (c : Cursor) (fuel : Nat)
    (hc : c.rest = itemBytes xs ++ 93 :: more) (hfuel : (itemBytes xs).length + 1 < fuel)
    (hdepth : need < c.depth) :
    ∃ ws, skeletonItems ws = skeletonItems xs ∧
      outcome (anyItems fuel false acc) c = (.ok (acc.reverse ++ ws), c.advanceBy (itemBytes xs).length) := by
  induction xs generalizing acc c fuel with
  | nil =>
    obtain ⟨fuel, rfl⟩ : ∃ f, fuel = f + 1 := ⟨fuel - 1, by simp at hfuel; omega⟩
    refine ⟨[], rfl, ?_⟩
    rw [anyItems, outcome_bind_ok (outcome_nextItem_close false hc)]
    simp
  | cons x ys ih =>
    obtain ⟨fuel, rfl⟩ : ∃ f, fuel = f + 1 := ⟨fuel - 1, by simp at hfuel; omega⟩
    obtain ⟨b, bs, hbs, hb, hclose⟩ := hopen x List.mem_cons_self
    have hfirst : c.rest = 44 :: b :: (bs ++ itemBytes ys ++ 93 :: more) := by
      rw [hc, itemBytes_cons, hbs]
      simp
    have hitem : c.advance.rest = Text.encodeUtf8 (compact x) ++ (itemBytes ys ++ 93 :: more) := by
      rw [Cursor.advance_rest, hc, itemBytes_cons]
      simp
    rw [itemBytes_cons, List.length_cons, List.length_append] at hfuel
    rcases hread x List.mem_cons_self fuel (by omega) c.advance _ hitem (delimited_itemBytes _ more)
      (by simpa using hdepth) with ⟨v, hv, hrun⟩ | ⟨⟨⟩, -⟩
    -- the first of these items was read; the others follow it
    obtain ⟨ws, hws, hrest⟩ := ih (fun y hy => hread y (List.mem_cons_of_mem _ hy))
      (fun y hy => hopen y (List.mem_cons_of_mem _ hy)) (v :: acc) _ fuel (Cursor.advanceBy_append _ hitem)
      (by omega) (by simpa using hdepth)
    refine ⟨v :: ws, by rw [skeletonItems, skeletonItems, hv, hws], ?_⟩
    rw [anyItems, outcome_bind_ok (outcome_nextItem_comma hfirst hb hclose)]
    simp only [if_true]
    rw [outcome_bind_ok hrun, hrest, ← Cursor.advanceBy_one, ← Cursor.advanceBy_add, ← Cursor.advanceBy_add,
      itemBytes_cons, List.length_cons, List.length_append]
    simp only [List.reverse_cons, List.append_assoc, List.singleton_append]
    congr 2
    omega

/-- All the items of an array, from the first, are read in order up to the closing bracket. -/
theorem outcome_anyItems (xs : List Json) (hread : ∀ x ∈ xs, ReadsBack need x)
    (hopen : ∀ x ∈ xs, Opens (Text.encodeUtf8 (compact x))) (c : Cursor) (fuel : Nat)
    (hc : c.rest = Text.encodeUtf8 (compactItems xs) ++ 93 :: more)
    (hfuel : (Text.encodeUtf8 (compactItems xs)).length + 1 < fuel) (hdepth : need < c.depth) :
    ∃ ws, skeletonItems ws = skeletonItems xs ∧
      outcome (anyItems fuel true []) c = (.ok ws, c.advanceBy (Text.encodeUtf8 (compactItems xs)).length) := by
  obtain ⟨fuel, rfl⟩ : ∃ f, fuel = f + 1 := ⟨fuel - 1, by omega⟩
  cases xs with
  | nil =>
    refine ⟨[], rfl, ?_⟩
    rw [anyItems, outcome_bind_ok (outcome_nextItem_close true hc)]
    rfl
  | cons x ys =>
    rw [encodeUtf8_compactItems] at hc hfuel ⊢
    rw [List.length_append] at hfuel
    obtain ⟨b, bs, hbs, hb, hclose⟩ := hopen x List.mem_cons_self
    have hfirst : c.rest = b :: (bs ++ itemBytes ys ++ 93 :: more) := by
      rw [hc, hbs]
      simp
    have hitem : c.rest = Text.encodeUtf8 (compact x) ++ (itemBytes ys ++ 93 :: more) := by
      rw [hc, List.append_assoc]
    have hx : 0 < (Text.encodeUtf8 (compact x)).length := by rw [hbs]; simp
    rcases hread x List.mem_cons_self fuel (by omega) c _ hitem (delimited_itemBytes _ more) hdepth with
      ⟨v, hv, hrun⟩ | ⟨⟨⟩, -⟩
    -- the first item was read; the others follow its comma
    obtain ⟨ws, hws, hrest⟩ := outcome_anyItems_rest ys (fun y hy => hread y (List.mem_cons_of_mem _ hy))
      (fun y hy => hopen y (List.mem_cons_of_mem _ hy)) [v] _ fuel (Cursor.advanceBy_append _ hitem)
      (by omega) (by simpa using hdepth)
    refine ⟨v :: ws, by rw [skeletonItems, skeletonItems, hv, hws], ?_⟩
    rw [anyItems, outcome_bind_ok (outcome_nextItem_first hfirst hb hclose)]
    simp only [if_true]
    rw [outcome_bind_ok hrun, hrest, ← Cursor.advanceBy_add, List.length_append]
    rfl

/-- One member, key and value, read by the reader of objects of values. -/
theorem outcome_anyMember {m : String × Json} (hm : ReadsBack need m.2) (acc : List (String × Json))
    {rest : List UInt8} {c : Cursor} (fuel : Nat) (hc : c.rest = memberBytes m ++ rest) (hrest : Delimited rest)
    (hfuel : (Text.encodeUtf8 (compact m.2)).length < fuel) (hdepth : need < c.depth) :
    ∃ v, v.skeleton = m.2.skeleton ∧
      outcome (key >>= fun k => colon >>= fun _ => anyValue fuel >>= fun v => anyMembers fuel false ((k, v) :: acc)) c =
        outcome (anyMembers fuel false ((m.1, v) :: acc)) (c.advanceBy (memberBytes m).length) := by
  have hsplit : c.rest = Text.encodeUtf8 (quote m.1) ++ (58 :: Text.encodeUtf8 (compact m.2) ++ rest) := by
    rw [hc, memberBytes, List.append_assoc]
  have hcolon : (c.advanceBy (Text.encodeUtf8 (quote m.1)).length).rest =
      58 :: Text.encodeUtf8 (compact m.2) ++ rest :=
    Cursor.advanceBy_append c hsplit
  have hvalue : (c.advanceBy (Text.encodeUtf8 (quote m.1)).length).advance.rest =
      Text.encodeUtf8 (compact m.2) ++ rest := by
    rw [Cursor.advance_rest, hcolon]
    rfl
  rw [outcome_bind_ok (outcome_key m.1 hsplit), outcome_bind_ok (outcome_colon (hcolon.trans (List.cons_append ..)))]
  rcases hm fuel hfuel _ rest hvalue hrest (by simpa using hdepth) with ⟨v, hv, hrun⟩ | ⟨⟨⟩, -⟩
  refine ⟨v, hv, ?_⟩
  rw [outcome_bind_ok hrun, ← Cursor.advanceBy_one, ← Cursor.advanceBy_add, ← Cursor.advanceBy_add,
    memberBytes, List.length_append, List.length_cons, Nat.add_comm 1]

/-- The members after the first, each after its comma, are read in order up to the closing
brace. -/
theorem outcome_anyMembers_rest (fs : List (String × Json)) (hread : ∀ m ∈ fs, ReadsBack need m.2)
    (acc : List (String × Json)) (c : Cursor) (fuel : Nat) (hc : c.rest = restBytes fs ++ 125 :: more)
    (hfuel : (restBytes fs).length + 1 < fuel) (hdepth : need < c.depth) :
    ∃ gs, skeletonFields gs = skeletonFields fs ∧
      outcome (anyMembers fuel false acc) c = (.ok (acc.reverse ++ gs), c.advanceBy (restBytes fs).length) := by
  induction fs generalizing acc c fuel with
  | nil =>
    obtain ⟨fuel, rfl⟩ : ∃ f, fuel = f + 1 := ⟨fuel - 1, by simp at hfuel; omega⟩
    refine ⟨[], rfl, ?_⟩
    rw [anyMembers, outcome_bind_ok (outcome_nextKey_close false hc)]
    simp
  | cons m ms ih =>
    obtain ⟨fuel, rfl⟩ : ∃ f, fuel = f + 1 := ⟨fuel - 1, by simp at hfuel; omega⟩
    have hfirst : c.rest = 44 :: 34 :: (Text.encodeUtf8 (quote m.1)).tail ++ 58 :: Text.encodeUtf8 (compact m.2) ++
        restBytes ms ++ 125 :: more := by
      rw [hc, restBytes_cons, memberBytes, encodeUtf8_quote]
      simp
    have hmember : c.advance.rest = memberBytes m ++ (restBytes ms ++ 125 :: more) := by
      rw [Cursor.advance_rest, hc, restBytes_cons]
      simp
    rw [restBytes_cons, List.length_cons, List.length_append, memberBytes, List.length_append,
      List.length_cons] at hfuel
    obtain ⟨v, hv, hfront⟩ := outcome_anyMember (hread m List.mem_cons_self) acc fuel hmember
      (delimited_restBytes ms more) (by omega) (by simpa using hdepth)
    -- the first of these members was read; the others follow it
    obtain ⟨gs, hgs, hrest⟩ := ih (fun m' hm' => hread m' (List.mem_cons_of_mem _ hm')) ((m.1, v) :: acc) _ fuel
      (Cursor.advanceBy_append _ hmember) (by omega) (by simpa using hdepth)
    refine ⟨(m.1, v) :: gs, by rw [skeletonFields, skeletonFields, hv, hgs], ?_⟩
    rw [anyMembers, outcome_bind_ok (outcome_nextKey_comma hfirst)]
    simp only [if_true]
    rw [hfront, hrest, ← Cursor.advanceBy_one, ← Cursor.advanceBy_add, ← Cursor.advanceBy_add, restBytes_cons,
      List.length_cons, List.length_append]
    simp only [List.reverse_cons, List.append_assoc, List.singleton_append]
    congr 2
    omega

/-- All the members of an object, from the first, are read in order up to the closing brace. -/
theorem outcome_anyMembers (fs : List (String × Json)) (hread : ∀ m ∈ fs, ReadsBack need m.2) (c : Cursor)
    (fuel : Nat) (hc : c.rest = Text.encodeUtf8 (compactFields fs) ++ 125 :: more)
    (hfuel : (Text.encodeUtf8 (compactFields fs)).length + 1 < fuel) (hdepth : need < c.depth) :
    ∃ gs, skeletonFields gs = skeletonFields fs ∧
      outcome (anyMembers fuel true []) c = (.ok gs, c.advanceBy (Text.encodeUtf8 (compactFields fs)).length) := by
  obtain ⟨fuel, rfl⟩ : ∃ f, fuel = f + 1 := ⟨fuel - 1, by omega⟩
  cases fs with
  | nil =>
    refine ⟨[], rfl, ?_⟩
    rw [anyMembers, outcome_bind_ok (outcome_nextKey_close true hc)]
    rfl
  | cons m ms =>
    rw [encodeUtf8_compactFields] at hc hfuel ⊢
    rw [List.length_append, memberBytes, List.length_append, List.length_cons] at hfuel
    obtain ⟨X, hX⟩ : ∃ X, Text.encodeUtf8 (quote m.1) = 34 :: X :=
      ⟨_, by rw [encodeUtf8_quote, List.cons_append]⟩
    have hfirst : c.rest = 34 :: (X ++ 58 :: Text.encodeUtf8 (compact m.2) ++ restBytes ms ++ 125 :: more) := by
      rw [hc, memberBytes, hX]
      simp
    have hmember : c.rest = memberBytes m ++ (restBytes ms ++ 125 :: more) := by
      rw [hc, List.append_assoc]
    obtain ⟨v, hv, hfront⟩ := outcome_anyMember (hread m List.mem_cons_self) [] fuel hmember
      (delimited_restBytes ms more) (by omega) hdepth
    -- the first member was read; the others follow its comma
    obtain ⟨gs, hgs, hrest⟩ := outcome_anyMembers_rest ms (fun m' hm' => hread m' (List.mem_cons_of_mem _ hm'))
      [(m.1, v)] _ fuel (Cursor.advanceBy_append _ hmember) (by omega) (by simpa using hdepth)
    refine ⟨(m.1, v) :: gs, by rw [skeletonFields, skeletonFields, hv, hgs], ?_⟩
    rw [anyMembers, outcome_bind_ok (outcome_nextKey_first hfirst)]
    simp only [if_true]
    rw [hfront, hrest, ← Cursor.advanceBy_add, List.length_append]
    rfl

end Containers

theorem anyValue_arr {d : Nat} {xs : List Json} (hread : ∀ x ∈ xs, ReadsBack d x)
    (hopen : ∀ x ∈ xs, Opens (Text.encodeUtf8 (compact x))) : ReadsBack (d + 1) (.arr xs) := by
  intro fuel hfuel
  obtain ⟨f, rfl⟩ : ∃ f, fuel = f + 1 := ⟨fuel - 1, by omega⟩
  rw [encodeUtf8_compact_arr] at hfuel ⊢
  rw [anyValue]
  refine Reads.typed (by decide) ?_
  simp +decide only [ite_true, ite_false]
  simp only [List.length_cons, List.length_append] at hfuel
  refine Reads.map_of (P := fun ws => skeletonItems ws = skeletonItems xs)
    (Reads.enter_of (fun _ _ h => outcome_closeList h) fun c more hc hdepth => .inl ?_) _
    fun ws hws => by rw [skeleton, skeleton, hws]
  exact outcome_anyItems xs hread hopen c f hc (by omega) hdepth

theorem anyValue_obj {d : Nat} {fs : List (String × Json)} (hread : ∀ m ∈ fs, ReadsBack d m.2) :
    ReadsBack (d + 1) (.obj fs) := by
  intro fuel hfuel
  obtain ⟨f, rfl⟩ : ∃ f, fuel = f + 1 := ⟨fuel - 1, by omega⟩
  rw [encodeUtf8_compact_obj] at hfuel ⊢
  rw [anyValue]
  refine Reads.typed (by decide) ?_
  simp +decide only [ite_true, ite_false]
  simp only [List.length_cons, List.length_append] at hfuel
  refine Reads.map_of (P := fun gs => skeletonFields gs = skeletonFields fs)
    (Reads.enter_obj fun c more hc hdepth => .inl ?_) _ fun gs hgs => by rw [skeleton, skeleton, hgs]
  exact outcome_anyMembers fs hread c f hc (by omega) hdepth

/-- A value read back as itself is read back with its skeleton. -/
theorem readsBack_of_eq {d : Nat} {v : Json} (h : ∀ f, Reads False d (anyValue (f + 1)) (Text.encodeUtf8 (compact v)) (· = v)) :
    ReadsBack d v := by
  intro fuel hfuel
  obtain ⟨f, rfl⟩ : ∃ f, fuel = f + 1 := ⟨fuel - 1, by omega⟩
  exact (h f).mono id le_rfl fun w hw => by rw [hw]

/-- A number is read back with its skeleton when its digits are. -/
theorem readsBack_of_writtenNumber {d : Nat} {v : Json} (h : WrittenNumber v (·.skeleton = v.skeleton)) :
    ReadsBack d v := by
  intro fuel hfuel
  obtain ⟨f, rfl⟩ : ∃ f, fuel = f + 1 := ⟨fuel - 1, by omega⟩
  exact anyValue_written h

/-- **Values read back.** A readable value, nesting at most `d` deep, is read back with its
skeleton by the reader of values of any shape. -/
theorem readsBack_of_readable {d : Nat} {v : Json} (hv : Readable d v) : ReadsBack d v := by
  induction hv with
  | null => exact readsBack_of_eq fun _ => anyValue_null
  | bool b => exact readsBack_of_eq fun _ => anyValue_bool b
  | int h => exact readsBack_of_writtenNumber (writtenNumber_int_skeleton h)
  | float h => exact readsBack_of_writtenNumber (writtenNumber_float_skeleton h)
  | str s => exact readsBack_of_eq fun _ => anyValue_str s
  | arr h ih => exact anyValue_arr ih fun x hx => opens_compact (h x hx)
  | obj _ ih => exact anyValue_obj ih

/-- **Objects read back.** An object whose values are readable and nest at most `d` deep is read
back, member by member, with their skeletons, by the reader of objects of values. -/
theorem readObject_compact {d : Nat} {fs : List (String × Json)} (h : ∀ m ∈ fs, Readable d m.2) :
    Reads False (d + 1) readObject (Text.encodeUtf8 (compact (.obj fs))) (skeletonFields · = skeletonFields fs) := by
  rw [encodeUtf8_compact_obj]
  refine Reads.typed (by decide) ?_
  rw [if_pos (show (123 : UInt8) = byte '{' from rfl)]
  intro c more hc hmore hdepth
  rw [outcome_bind_ok (outcome_get c)]
  -- the fuel is counted from the whole input, which the object's members are part of
  have hfuel : (Text.encodeUtf8 (compactFields fs)).length + 1 < 2 * c.rest.length + 2 := by
    rw [hc]
    simp only [List.append_eq, List.length_append, List.length_cons]
    omega
  exact Reads.enter_obj (P := (skeletonFields · = skeletonFields fs)) (fun c' _ hc' hdepth' => .inl
    (outcome_anyMembers fs (fun m hm => readsBack_of_readable (h m hm)) c' _ hc' hfuel hdepth'))
    c more hc hmore hdepth

/-- A readable value is read back with its skeleton by the reader of values of any shape. -/
theorem readAny_compact {d : Nat} {v : Json} (hv : Readable d v) :
    Reads False d readAny (Text.encodeUtf8 (compact v)) (·.skeleton = v.skeleton) := by
  intro c more hc hmore hdepth
  rw [readAny, outcome_bind_ok (outcome_get c)]
  exact readsBack_of_readable hv _ (by rw [hc, List.length_append]; omega) c more hc hmore hdepth

/-! ## Skipping values -/

section SkipStrings

variable {c c' : Cursor} {more : List UInt8} {fuel : Nat}

theorem skipStringBody_plain {b : UInt8} (h : c.rest = b :: more) (hb : Plain b) :
    outcome (skipStringBody (fuel + 1)) c = outcome (skipStringBody fuel) c.advance := by
  rw [skipStringBody, outcome_bind_ok (outcome_peek c), h]
  simp only [List.head?_cons, if_neg hb.1, if_neg hb.2.1, if_neg hb.2.2]
  rw [outcome_bind_ok (outcome_eat _)]

/-- Plain bytes are passed over one by one, a step of fuel each. -/
theorem skipStringBody_plains {bs : List UInt8} (h : c.rest = bs ++ more) (hbs : ∀ b ∈ bs, Plain b) :
    outcome (skipStringBody (fuel + bs.length)) c = outcome (skipStringBody fuel) (c.advanceBy bs.length) := by
  induction bs generalizing c with
  | nil => rfl
  | cons b bs ih =>
    have hnext : c.advance.rest = bs ++ more := by rw [Cursor.advance_rest, h]; rfl
    rw [List.length_cons, ← Nat.add_assoc, skipStringBody_plain (h.trans (List.cons_append ..))
      (hbs b List.mem_cons_self), ih hnext fun x hx => hbs x (List.mem_cons_of_mem _ hx), Cursor.advanceBy_succ]

/-- An escape is passed over in one step of fuel. -/
theorem skipStringBody_escape (h : c.rest = 92 :: more) (he : outcome skipEscape c.advance = (.ok (), c')) :
    outcome (skipStringBody (fuel + 1)) c = outcome (skipStringBody fuel) c' := by
  rw [skipStringBody, outcome_bind_ok (outcome_peek c), h]
  simp only [List.head?_cons, if_neg (show (92 : UInt8) ≠ 34 by decide), if_true]
  rw [outcome_bind_ok (outcome_eat _), outcome_bind_ok he]

theorem skipStringBody_close (h : c.rest = 34 :: more) :
    outcome (skipStringBody (fuel + 1)) c = (.ok (), c.advance) := by
  rw [skipStringBody, outcome_bind_ok (outcome_peek c), h]
  rfl

/-- The bytes of a character are passed over inside a string, in at most as many steps as
bytes. -/
theorem skipStringBody_escapeChar (ch : Char) (h : c.rest = Text.encodeUtf8 (escapeChar ch) ++ more) :
    ∃ k ≤ (Text.encodeUtf8 (escapeChar ch)).length, ∀ fuel,
      outcome (skipStringBody (fuel + k)) c =
        outcome (skipStringBody fuel) (c.advanceBy (Text.encodeUtf8 (escapeChar ch)).length) := by
  rcases escapeChar_cases ch with ⟨x, d, hbytes, -, hx⟩ | ⟨hexs, hesc, hdigits, -⟩ | ⟨hbytes, hplain⟩
  · -- a backslash and one byte of the short escapes
    rw [hbytes, List.cons_append, List.cons_append, List.nil_append] at h
    refine ⟨1, by simp [hbytes], fun fuel => skipStringBody_escape h ?_⟩
    rw [hbytes, skipEscape, outcome_bind_ok (outcome_stringByte (show c.advance.rest = x :: more by
      rw [Cursor.advance_rest, h]; rfl))]
    rcases hx with ⟨rfl, -⟩ | ⟨rfl, -⟩ | ⟨rfl, -⟩ | ⟨rfl, -⟩ | ⟨rfl, -⟩ | ⟨rfl, -⟩ | ⟨rfl, -⟩ <;> rfl
  · -- `\u` and four hexadecimal digits
    have hlen : (Text.encodeUtf8 (escapeChar ch)).length = 2 + 4 := by
      rw [hesc, List.length_cons, List.length_cons, ← List.length_map (f := hexByteValue), hdigits]
      rfl
    have hrest : c.advance.advance.rest = hexs ++ more := by
      rw [Cursor.advance_rest, Cursor.advance_rest, h, hesc]
      rfl
    refine ⟨1, by omega, fun fuel => skipStringBody_escape (by rw [h, hesc]; rfl) ?_⟩
    rw [hlen, Cursor.advanceBy_add, skipEscape, outcome_bind_ok (outcome_stringByte (by
      rw [Cursor.advance_rest, h, hesc]; rfl))]
    simp +decide only [ite_true, ite_false]
    rw [outcome_bind_ok (outcome_hexEscape hdigits hrest)]
    rfl
  · -- any other character is its own bytes
    refine ⟨(Text.utf8Bytes ch.toNat).length, by rw [hbytes], fun fuel => ?_⟩
    rw [hbytes] at h ⊢
    exact skipStringBody_plains h hplain

/-- The bytes of escaped characters are passed over up to the closing quote. -/
theorem skipStringBody_escaped (cs : List Char)
    (h : c.rest = cs.flatMap (fun ch => Text.encodeUtf8 (escapeChar ch)) ++ 34 :: more)
    (hfuel : (cs.flatMap fun ch => Text.encodeUtf8 (escapeChar ch)).length < fuel) :
    outcome (skipStringBody fuel) c =
      (.ok (), c.advanceBy ((cs.flatMap fun ch => Text.encodeUtf8 (escapeChar ch)).length + 1)) := by
  induction cs generalizing c fuel with
  | nil =>
    obtain ⟨f, rfl⟩ : ∃ f, fuel = f + 1 := ⟨fuel - 1, by simp at hfuel; omega⟩
    exact skipStringBody_close h
  | cons ch cs ih =>
    rw [List.flatMap_cons, List.append_assoc] at h
    rw [List.flatMap_cons, List.length_append] at hfuel
    obtain ⟨k, hk, hstep⟩ := skipStringBody_escapeChar ch h
    obtain ⟨f, rfl⟩ : ∃ f, fuel = f + k := ⟨fuel - k, by omega⟩
    rw [hstep, ih (Cursor.advanceBy_append c h) (by omega), ← Cursor.advanceBy_add, List.flatMap_cons,
      List.length_append, Nat.add_assoc]

/-- The body of a written text is passed over, up to and including its closing quote. -/
theorem outcome_skipString (s : String)
    (h : c.rest = s.toList.flatMap (fun ch => Text.encodeUtf8 (escapeChar ch)) ++ 34 :: more) :
    outcome skipString c =
      (.ok (), c.advanceBy ((s.toList.flatMap fun ch => Text.encodeUtf8 (escapeChar ch)).length + 1)) := by
  rw [skipString, outcome_bind_ok (outcome_get c)]
  exact skipStringBody_escaped s.toList h (by rw [h, List.length_append, List.length_cons]; omega)

end SkipStrings

section SkipValues

variable {c : Cursor} {more : List UInt8}

/-- A keyword whose first byte is next is passed over. -/
theorem outcome_eat_keyword_unit {e : UInt8} {s : String} (h : c.rest = e :: Text.encodeUtf8 s ++ more) :
    outcome (do eat; keyword (String.toUTF8 s).toList) c = (.ok (), c.advanceBy (e :: Text.encodeUtf8 s).length) := by
  have hrest : c.advance.rest = Text.encodeUtf8 s ++ more := by rw [Cursor.advance_rest, h]; rfl
  rw [outcome_bind_ok (outcome_eat c), outcome_keyword_text hrest, List.length_cons, Cursor.advanceBy_succ]

end SkipValues

/-- The skipping reader passes over `v`, from any fuel past its length. -/
def SkipsOver (v : Json) : Prop :=
  ∀ fuel, (Text.encodeUtf8 (compact v)).length < fuel → ∀ c more, c.rest = Text.encodeUtf8 (compact v) ++ more →
    Delimited more → outcome (skipValue fuel) c = (.ok (), c.advanceBy (Text.encodeUtf8 (compact v)).length)

section SkipContainers

variable {more : List UInt8}

/-- The items of an array, from the first, are passed over up to and including the closing
bracket. -/
theorem outcome_skipItems (x : Json) (xs : List Json) (hskip : ∀ y ∈ x :: xs, SkipsOver y) (c : Cursor)
    (fuel : Nat) (hc : c.rest = Text.encodeUtf8 (compactItems (x :: xs)) ++ 93 :: more)
    (hfuel : (Text.encodeUtf8 (compactItems (x :: xs))).length + 1 < fuel) :
    outcome (skipItems fuel) c = (.ok (), c.advanceBy ((Text.encodeUtf8 (compactItems (x :: xs))).length + 1)) := by
  obtain ⟨f, rfl⟩ : ∃ f, fuel = f + 1 := ⟨fuel - 1, by omega⟩
  induction xs generalizing x c f with
  | nil =>
    rw [encodeUtf8_compactItems, itemBytes_nil, List.append_nil] at hc hfuel ⊢
    rw [skipItems, outcome_bind_ok (hskip x List.mem_cons_self f (by omega) c _ hc (by simp [Delimited])),
      outcome_bind_ok (outcome_skipBlank (Cursor.advanceBy_append c hc) (by decide))]
    dsimp only
    rw [if_neg (show (93 : UInt8) ≠ byte ',' by decide), if_pos (show (93 : UInt8) = byte ']' from rfl),
      outcome_eat, ← Cursor.advanceBy_one, ← Cursor.advanceBy_add]
  | cons y ys ih =>
    have hsplit : c.rest = Text.encodeUtf8 (compact x) ++ 44 :: (Text.encodeUtf8 (compactItems (y :: ys)) ++ 93 :: more) := by
      rw [hc, encodeUtf8_compactItems, encodeUtf8_compactItems, itemBytes_cons]
      simp
    have hlen : (Text.encodeUtf8 (compactItems (x :: y :: ys))).length =
        (Text.encodeUtf8 (compact x)).length + 1 + (Text.encodeUtf8 (compactItems (y :: ys))).length := by
      rw [encodeUtf8_compactItems, encodeUtf8_compactItems, itemBytes_cons]
      simp only [List.length_append, List.length_cons]
      omega
    rw [hlen] at hfuel ⊢
    have hnext : ((c.advanceBy (Text.encodeUtf8 (compact x)).length).advance).rest =
        Text.encodeUtf8 (compactItems (y :: ys)) ++ 93 :: more := by
      rw [Cursor.advance_rest, Cursor.advanceBy_append c hsplit]
      rfl
    rw [skipItems, outcome_bind_ok (hskip x List.mem_cons_self f (by omega) c _ hsplit (fun b hb => by simp at hb; simp [hb])),
      outcome_bind_ok (outcome_skipBlank (Cursor.advanceBy_append c hsplit) (by decide))]
    dsimp only
    rw [if_pos (show (44 : UInt8) = byte ',' from rfl), outcome_bind_ok (outcome_eat _)]
    -- the comma is passed; the other items follow
    obtain ⟨f, rfl⟩ : ∃ g, f = g + 1 := ⟨f - 1, by omega⟩
    rw [ih y (fun z hz => hskip z (List.mem_cons_of_mem _ hz)) _ hnext f (by omega), ← Cursor.advanceBy_one,
      ← Cursor.advanceBy_add, ← Cursor.advanceBy_add]
    congr 2
    omega

/-- One member, key and value, is passed over up to the byte that follows it. -/
theorem outcome_skipMembers_step {m : String × Json} (hm : SkipsOver m.2) {sep : UInt8} {rest : List UInt8}
    (hsep : sep = 44 ∨ sep = 125) (c : Cursor) (f : Nat) (hc : c.rest = memberBytes m ++ sep :: rest)
    (hfuel : (Text.encodeUtf8 (compact m.2)).length < f) :
    outcome (skipMembers (f + 1)) c =
      outcome (if sep = byte ',' then (do eat; skipMembers f) else if sep = byte '}' then eat
        else failAhead .expectedObjectCommaOrEnd) (c.advanceBy (memberBytes m).length) := by
  have hkey : c.rest = 34 :: (m.1.toList.flatMap (fun ch => Text.encodeUtf8 (escapeChar ch)) ++
      34 :: (58 :: Text.encodeUtf8 (compact m.2) ++ sep :: rest)) := by
    rw [hc, memberBytes, encodeUtf8_quote]
    simp
  have hbody : c.advance.rest = m.1.toList.flatMap (fun ch => Text.encodeUtf8 (escapeChar ch)) ++
      34 :: (58 :: Text.encodeUtf8 (compact m.2) ++ sep :: rest) := by
    rw [Cursor.advance_rest, hkey]
    rfl
  have hcolon : (c.advance.advanceBy ((m.1.toList.flatMap fun ch => Text.encodeUtf8 (escapeChar ch)).length + 1)).rest =
      58 :: Text.encodeUtf8 (compact m.2) ++ sep :: rest := by
    rw [Cursor.advanceBy_add, Cursor.advanceBy_one, Cursor.advance_rest, Cursor.advanceBy_append _ hbody]
    rfl
  have hvalue : (c.advance.advanceBy ((m.1.toList.flatMap fun ch => Text.encodeUtf8 (escapeChar ch)).length + 1)).advance.rest =
      Text.encodeUtf8 (compact m.2) ++ sep :: rest := by
    rw [Cursor.advance_rest, hcolon]
    rfl
  rw [skipMembers, outcome_bind_ok (outcome_skipBlank hkey (by decide))]
  dsimp only
  rw [if_pos (show (34 : UInt8) = byte '"' from rfl), outcome_bind_ok (outcome_eat c),
    outcome_bind_ok (outcome_skipString m.1 hbody), outcome_bind_ok (outcome_skipBlank hcolon (by decide))]
  dsimp only
  rw [if_pos (show (58 : UInt8) = byte ':' from rfl), outcome_bind_ok (outcome_eat _),
    outcome_bind_ok (hm f hfuel _ _ hvalue (fun b hb => by
      simp at hb; subst hb; rcases hsep with rfl | rfl <;> simp)),
    outcome_bind_ok (outcome_skipBlank (Cursor.advanceBy_append _ hvalue)
      (by rcases hsep with rfl | rfl <;> decide))]
  dsimp only
  simp only [← Cursor.advanceBy_succ, ← Cursor.advanceBy_add, memberBytes, encodeUtf8_quote, List.length_append,
    List.length_cons, List.length_nil]

/-- The members of an object, from the first, are passed over up to and including the closing
brace. -/
theorem outcome_skipMembers (m : String × Json) (ms : List (String × Json))
    (hskip : ∀ m' ∈ m :: ms, SkipsOver m'.2) (c : Cursor) (fuel : Nat)
    (hc : c.rest = Text.encodeUtf8 (compactFields (m :: ms)) ++ 125 :: more)
    (hfuel : (Text.encodeUtf8 (compactFields (m :: ms))).length + 1 < fuel) :
    outcome (skipMembers fuel) c = (.ok (), c.advanceBy ((Text.encodeUtf8 (compactFields (m :: ms))).length + 1)) := by
  obtain ⟨f, rfl⟩ : ∃ f, fuel = f + 1 := ⟨fuel - 1, by omega⟩
  rw [encodeUtf8_compactFields] at hc hfuel ⊢
  have hvalue : (Text.encodeUtf8 (compact m.2)).length < f := by
    rw [List.length_append, memberBytes, List.length_append, List.length_cons] at hfuel
    omega
  induction ms generalizing m c f with
  | nil =>
    rw [restBytes_nil, List.append_nil] at hc ⊢
    rw [outcome_skipMembers_step (hskip m List.mem_cons_self) (.inr rfl) c f hc hvalue,
      if_neg (show (125 : UInt8) ≠ byte ',' by decide), if_pos (show (125 : UInt8) = byte '}' from rfl), outcome_eat,
      ← Cursor.advanceBy_one, ← Cursor.advanceBy_add]
  | cons m' ms ih =>
    have hsplit : c.rest = memberBytes m ++ 44 :: (memberBytes m' ++ restBytes ms ++ 125 :: more) := by
      rw [hc, restBytes_cons]
      simp
    have hnext : ((c.advanceBy (memberBytes m).length).advance).rest = memberBytes m' ++ restBytes ms ++ 125 :: more := by
      rw [Cursor.advance_rest, Cursor.advanceBy_append c hsplit]
      rfl
    rw [restBytes_cons, List.length_append, List.length_cons] at hfuel
    obtain ⟨f, rfl⟩ : ∃ g, f = g + 1 := ⟨f - 1, by omega⟩
    rw [outcome_skipMembers_step (hskip m List.mem_cons_self) (.inl rfl) c _ hsplit hvalue,
      if_pos (show (44 : UInt8) = byte ',' from rfl), outcome_bind_ok (outcome_eat _),
      ih m' (fun z hz => hskip z (List.mem_cons_of_mem _ hz)) _ hnext f (by omega) (by
        simp only [memberBytes, List.length_append, List.length_cons] at hfuel; omega),
      ← Cursor.advanceBy_one, ← Cursor.advanceBy_add, ← Cursor.advanceBy_add]
    simp only [restBytes_cons, List.length_append, List.length_cons]
    exact congrArg (fun n => ((.ok () : Except JsonError Unit), c.advanceBy n)) (by omega)

end SkipContainers

section SkipScalars

variable {f : Nat}

theorem skipsOver_null : SkipsOver .null := by
  intro fuel hfuel c more hc _
  obtain ⟨f, rfl⟩ : ∃ f, fuel = f + 1 := ⟨fuel - 1, by omega⟩
  rw [encodeUtf8_null] at hc ⊢
  rw [skipValue, outcome_bind_ok (outcome_skipBlank (hc.trans (List.cons_append ..)) (by decide))]
  simp +decide only [ite_true, ite_false]
  exact outcome_eat_keyword_unit (s := "ull") hc

theorem skipsOver_bool (b : Bool) : SkipsOver (.bool b) := by
  intro fuel hfuel c more hc _
  obtain ⟨f, rfl⟩ : ∃ f, fuel = f + 1 := ⟨fuel - 1, by omega⟩
  cases b with
  | false =>
    rw [encodeUtf8_false] at hc ⊢
    rw [skipValue, outcome_bind_ok (outcome_skipBlank (hc.trans (List.cons_append ..)) (by decide))]
    simp +decide only [ite_true, ite_false]
    exact outcome_eat_keyword_unit (s := "alse") hc
  | true =>
    rw [encodeUtf8_true] at hc ⊢
    rw [skipValue, outcome_bind_ok (outcome_skipBlank (hc.trans (List.cons_append ..)) (by decide))]
    simp +decide only [ite_true, ite_false]
    exact outcome_eat_keyword_unit (s := "rue") hc

/-- A number is passed over when its digits are, after its minus sign when it has one. -/
theorem skipsOver_written {v : Json} {P : Json → Prop} (hv : WrittenNumber v P) : SkipsOver v := by
  obtain ⟨positive, bytes, htext, hnum⟩ := hv
  obtain ⟨b, bs, rfl, hb⟩ := hnum.head
  intro fuel hfuel c more hc hmore
  obtain ⟨f, rfl⟩ : ∃ f, fuel = f + 1 := ⟨fuel - 1, by omega⟩
  rw [htext] at hc ⊢
  cases positive with
  | true =>
    rw [skipValue, outcome_bind_ok (outcome_skipBlank (hc.trans (List.cons_append ..)) (isBlankByte_of_isDigitByte hb))]
    dsimp only
    rw [if_neg (ne_of_isDigitByte hb (by decide)), if_neg (ne_of_isDigitByte hb (by decide)),
      if_neg (ne_of_isDigitByte hb (by decide)), if_neg (ne_of_isDigitByte hb (by decide)), if_pos hb]
    exact hnum.skips c more hc hmore
  | false =>
    have hrest : c.advance.rest = b :: bs ++ more := by rw [Cursor.advance_rest, hc]; rfl
    rw [skipValue, outcome_bind_ok (outcome_skipBlank (hc.trans (List.cons_append ..)) (by decide))]
    simp +decide only [ite_true, ite_false]
    rw [outcome_bind_ok (outcome_eat c), hnum.skips _ more hrest hmore]
    simp only [signedBytes, List.length_cons, Cursor.advanceBy_succ]

theorem skipsOver_str (s : String) : SkipsOver (.str s) := by
  intro fuel hfuel c more hc _
  obtain ⟨f, rfl⟩ : ∃ f, fuel = f + 1 := ⟨fuel - 1, by omega⟩
  rw [encodeUtf8_compact_str] at hc ⊢
  have hrest : c.advance.rest = s.toList.flatMap (fun ch => Text.encodeUtf8 (escapeChar ch)) ++ 34 :: more := by
    rw [Cursor.advance_rest, hc]
    simp
  rw [skipValue, outcome_bind_ok (outcome_skipBlank (hc.trans (List.cons_append ..)) (by decide))]
  simp +decide only [ite_true, ite_false]
  rw [outcome_bind_ok (outcome_eat c), outcome_skipString s hrest]
  simp only [List.length_cons, List.length_append, List.length_nil, Nat.zero_add, Cursor.advanceBy_succ]

end SkipScalars

theorem skipsOver_arr {xs : List Json} (hskip : ∀ x ∈ xs, SkipsOver x)
    (hopen : ∀ x ∈ xs, Opens (Text.encodeUtf8 (compact x))) : SkipsOver (.arr xs) := by
  intro fuel hfuel c more hc _
  obtain ⟨f, rfl⟩ : ∃ f, fuel = f + 1 := ⟨fuel - 1, by omega⟩
  rw [encodeUtf8_compact_arr] at hc hfuel ⊢
  have hinner : c.advance.rest = Text.encodeUtf8 (compactItems xs) ++ 93 :: more := by
    rw [Cursor.advance_rest, hc]
    simp
  rw [skipValue, outcome_bind_ok (outcome_skipBlank (hc.trans (List.cons_append ..)) (by decide))]
  simp +decide only [ite_true, ite_false]
  rw [outcome_bind_ok (outcome_eat c)]
  cases xs with
  | nil =>
    rw [outcome_bind_ok (outcome_skipBlank hinner (by decide))]
    simp +decide only [ite_true]
    rfl
  | cons x xs =>
    -- the first item opens with a byte that does not close the array
    obtain ⟨b, bs, hbs, hb, hclose⟩ := hopen x List.mem_cons_self
    have hfirst : c.advance.rest = b :: (bs ++ itemBytes xs ++ 93 :: more) := by
      rw [hinner, encodeUtf8_compactItems, hbs]
      simp
    simp only [List.length_cons, List.length_append, List.length_nil] at hfuel
    rw [outcome_bind_ok (outcome_skipBlank hfirst hb)]
    dsimp only
    rw [if_neg (show b ≠ byte ']' from hclose), outcome_skipItems x xs hskip _ f hinner (by omega)]
    simp only [List.length_cons, List.length_append, List.length_nil, Nat.zero_add, Cursor.advanceBy_succ]

theorem skipsOver_obj {fs : List (String × Json)} (hskip : ∀ m ∈ fs, SkipsOver m.2) : SkipsOver (.obj fs) := by
  intro fuel hfuel c more hc _
  obtain ⟨f, rfl⟩ : ∃ f, fuel = f + 1 := ⟨fuel - 1, by omega⟩
  rw [encodeUtf8_compact_obj] at hc hfuel ⊢
  have hinner : c.advance.rest = Text.encodeUtf8 (compactFields fs) ++ 125 :: more := by
    rw [Cursor.advance_rest, hc]
    simp
  rw [skipValue, outcome_bind_ok (outcome_skipBlank (hc.trans (List.cons_append ..)) (by decide))]
  simp +decide only [ite_true, ite_false]
  rw [outcome_bind_ok (outcome_eat c)]
  cases fs with
  | nil =>
    rw [outcome_bind_ok (outcome_skipBlank hinner (by decide))]
    simp +decide only [ite_true]
    rfl
  | cons m ms =>
    -- the first member opens with the quote of its key
    have hfirst : c.advance.rest = 34 :: ((Text.encodeUtf8 (quote m.1)).tail ++ 58 :: Text.encodeUtf8 (compact m.2) ++
        restBytes ms ++ 125 :: more) := by
      rw [hinner, encodeUtf8_compactFields, memberBytes, encodeUtf8_quote]
      simp
    simp only [List.length_cons, List.length_append, List.length_nil] at hfuel
    rw [outcome_bind_ok (outcome_skipBlank hfirst (by decide))]
    dsimp only
    rw [if_neg (show (34 : UInt8) ≠ byte '}' by decide), outcome_skipMembers m ms hskip _ f hinner (by omega)]
    simp only [List.length_cons, List.length_append, List.length_nil, Nat.zero_add, Cursor.advanceBy_succ]

/-- **Values skipped.** The skipping reader passes over every readable value, whatever its
nesting. -/
theorem skipsOver_of_readable {d : Nat} {v : Json} (hv : Readable d v) : SkipsOver v := by
  induction hv with
  | null => exact skipsOver_null
  | bool b => exact skipsOver_bool b
  | int h => exact skipsOver_written (writtenNumber_int_skeleton h)
  | float h => exact skipsOver_written (writtenNumber_float_skeleton h)
  | str s => exact skipsOver_str s
  | arr h ih => exact skipsOver_arr ih fun x hx => opens_compact (h x hx)
  | obj _ ih => exact skipsOver_obj ih

/-- The skip of an unknown member passes over a readable value. -/
theorem skip_compact {d need : Nat} {v : Json} (hv : Readable d v) :
    Reads False need skip (Text.encodeUtf8 (compact v)) (fun _ => True) := by
  intro c more hc hmore _
  rw [skip, outcome_bind_ok (outcome_get c)]
  exact .inl ⟨(), trivial, skipsOver_of_readable hv _ (by rw [hc, List.length_append]; omega) c more hc hmore⟩

end Json

end Warden
