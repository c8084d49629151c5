import Warden.Proofs.RelaxedPretty

/-!
# The relaxed reader refuses raw line separators

The pretty writer leaves U+2028 and U+2029 raw inside a string, but the relaxed syntax counts
them among the line terminators, which a string may not hold raw. So the pretty text of a value
with such a text is no document (`Relaxed.parse_prettyText_refused`), the converse of
`Relaxed.parse_prettyText`.

`Json.Refused` says which values these are, in the order the writer lays them out: the first part
that the reader cannot take is a text or a key with a line separator, and everything before it
reads back. What comes after it does not matter, since the reader never gets there.

## Where the failure surfaces

The string loop stops at the separator, and no closing quote stands there, so the string is
missed; every parser around it puts the position back in turn. In a container the loop of
`moreItems` stops before the refused item, and the end of the list then finds a value where the
closing bracket or brace should be. The proofs follow the positive ones of `RelaxedPretty`, with
`Takes` for what comes before the refused part and `Misses` or `Fails` from there on.
-/

namespace Warden

/-- Of a list whose items do not all pass a test, the first that fails it. -/
theorem exists_first_not {α : Type} {P : α → Prop} [DecidablePred P] {xs : List α}
    (h : ¬ ∀ x ∈ xs, P x) : ∃ pre x post, xs = pre ++ x :: post ∧ (∀ y ∈ pre, P y) ∧ ¬ P x := by
  obtain ⟨x, hx⟩ : ∃ x, xs.find? (fun y => !decide (P y)) = some x := by
    refine Option.isSome_iff_exists.mp (List.find?_isSome.mpr ?_)
    push Not at h
    obtain ⟨x, hx, hPx⟩ := h
    exact ⟨x, hx, by simpa using hPx⟩
  obtain ⟨hPx, pre, post, rfl, hpre⟩ := List.find?_eq_some_iff_append.mp hx
  exact ⟨pre, x, post, rfl, fun y hy => by simpa using hpre y hy, by simpa using hPx⟩

namespace Json

/-- A value whose pretty text the relaxed reader refuses: read in the writer's order, the first
part it cannot take is a text or a key with a line separator, and all before it reads back. -/
inductive Refused : Json → Prop where
  | str {s : String} (hs : ¬ NoLineSeparator s) : Refused (.str s)
  | arr {pre post : List Json} {x : Json} (hpre : ∀ y ∈ pre, Relaxable y) (hx : Refused x) :
      Refused (.arr (pre ++ x :: post))
  | key {pre post : List (String × Json)} {k : String} {x : Json}
      (hpre : ∀ m ∈ pre, NoLineSeparator m.1 ∧ Relaxable m.2) (hk : ¬ NoLineSeparator k) :
      Refused (.obj (pre ++ (k, x) :: post))
  | member {pre post : List (String × Json)} {k : String} {x : Json}
      (hpre : ∀ m ∈ pre, NoLineSeparator m.1 ∧ Relaxable m.2) (hk : NoLineSeparator k) (hx : Refused x) :
      Refused (.obj (pre ++ (k, x) :: post))

/-- An object is refused at its first member when that member's value is. -/
theorem Refused.obj_head {k : String} {x : Json} {fs : List (String × Json)} (hk : NoLineSeparator k)
    (hx : Refused x) : Refused (.obj ((k, x) :: fs)) :=
  @member [] fs k x (List.forall_mem_nil _) hk hx

/-- A member that reads back, in front of a refused object, leaves it refused. -/
theorem Refused.obj_cons {k : String} {x : Json} {fs : List (String × Json)} (hk : NoLineSeparator k)
    (hx : Relaxable x) (h : Refused (.obj fs)) : Refused (.obj ((k, x) :: fs)) := by
  cases h with
  | @key pre post k' x' hpre hk' =>
    exact @key ((k, x) :: pre) post k' x' (List.forall_mem_cons.mpr ⟨⟨hk, hx⟩, hpre⟩) hk'
  | @member pre post k' x' hpre hk' hx' =>
    exact @member ((k, x) :: pre) post k' x' (List.forall_mem_cons.mpr ⟨⟨hk, hx⟩, hpre⟩) hk' hx'

/-- A list of texts is refused at the first with a line separator. -/
theorem refused_texts {ss : List String} (h : ¬ ∀ s ∈ ss, NoLineSeparator s) : Refused (.arr (ss.map .str)) := by
  obtain ⟨pre, s, post, rfl, hpre, hs⟩ := exists_first_not h
  rw [List.map_append, List.map_cons]
  exact .arr (by simpa using hpre) (.str hs)

/-- A refused value is a string, an array or an object. -/
theorem Refused.start {v : Json} (hv : Refused v) (L : Nat) :
    ∃ c t, (pretty L v).toList = c :: t ∧ (c = '"' ∨ c = '[' ∨ c = '\x7b') := by
  cases hv with
  | str _ => exact ⟨'"', _, Relaxed.toList_quote _, .inl rfl⟩
  | @arr pre post x _ _ =>
    obtain ⟨t, ht⟩ := toList_pretty_arr_head L (pre ++ x :: post)
    exact ⟨'[', t, ht, .inr (.inl rfl)⟩
  | @key pre post k x _ _ =>
    obtain ⟨t, ht⟩ := toList_pretty_obj_head L (pre ++ (k, x) :: post)
    exact ⟨'\x7b', t, ht, .inr (.inr rfl)⟩
  | @member pre post k x _ _ _ =>
    obtain ⟨t, ht⟩ := toList_pretty_obj_head L (pre ++ (k, x) :: post)
    exact ⟨'\x7b', t, ht, .inr (.inr rfl)⟩

end Json

namespace Relaxed

variable {input : Array Char} {i : Nat}

/-! ## Strings -/

theorem separator_ne {c d : Char} (hc : c.toNat = 0x2028 ∨ c.toNat = 0x2029) (hd : d.toNat < 0x80) : c ≠ d := by
  rintro rfl
  omega

/-- A line separator is no character of a string. -/
theorem misses_quotedChar_separator {c : Char} {r : List Char} (h : after input i = c :: r)
    (hc : c.toNat = 0x2028 ∨ c.toNat = 0x2029) : Misses (quotedChar "\"") input i := by
  have hback : Misses (lit "\\") input i := misses_lit_of_head rfl h (separator_ne hc (by decide))
  have hcont := misses_lineContinuation hback
  -- the character is a line terminator, which no string may hold raw
  have hterm : Takes lineTerminator input i (i + 1) () :=
    takes_charWith h (by rcases hc with hc | hc <;> simp [isLineTerminator, hc])
  have hchar : Misses charLiteral input i := by
    unfold charLiteral
    exact (hback.first_takes hterm).notAhead.seqRight.fails.undoable.seqRight.named .charLiteral false
  unfold quotedChar
  exact hback.seqRight.fails.undoable.first (hcont.seqRight.first
    ((misses_lit_of_head rfl h (separator_ne hc (by decide))).fails.notAhead.seqRight_fails hchar.fails).undoable)

theorem escapeChar_separator {c : Char} (hc : c.toNat = 0x2028 ∨ c.toNat = 0x2029) :
    (Json.escapeChar c).toList = [c] := by
  -- the writer keeps every character from U+0020 on as it is, but the quote and the backslash
  rw [Json.escapeChar_plain (by omega) (separator_ne hc (by decide)) (separator_ne hc (by decide))]
  simp [Char.toString]

/-- A text with a line separator, as the writer quotes it, is no string: the loop of characters
stops at the first separator, where no closing quote stands. -/
theorem misses_string_refused {s : String} (hs : ¬ Json.NoLineSeparator s) {r : List Char}
    (h : after input i = (Json.quote s).toList ++ r) : Misses string input i := by
  obtain ⟨pre, c, post, hsplit, hpre, hc⟩ := exists_first_not hs
  have hsep : c.toNat = 0x2028 ∨ c.toNat = 0x2029 := by omega
  have hopen : after input i = "\"".toList ++ ((pre.flatMap fun c => (Json.escapeChar c).toList) ++
      c :: ((post.flatMap fun c => (Json.escapeChar c).toList) ++ '"' :: r)) := by
    rw [h, toList_quote, hsplit, List.flatMap_append, List.flatMap_cons, escapeChar_separator hsep]
    simp
  have hquote : after input i = '"' :: _ := hopen
  have hbody := after_append hopen
  obtain ⟨parts, hrun, -⟩ := runs_quotedChars (fun _ hq => misses_quotedChar_separator hq hsep) pre hpre hbody
  have hstop := after_append hbody
  unfold string
  exact ((((takes_lit hopen).seqRight (hrun.takes_many (by have := length_le_of_after hbody; omega))).seqLeft_fails
    (misses_lit_of_head rfl hstop (separator_ne hsep (by decide))).fails).undoable.first
    (misses_lit_of_head rfl hquote (by decide)).seqRight.fails.seqLeft.undoable).named .string true

/-! ## Items -/

theorem valueEnd_comma (t : List Char) : ValueEnd (',' :: t) := fun _ _ h => .inl (List.cons.inj h).1.symm

section
variable {α : Type} {item : Nodes} {T : α → List Char} {G : α → List Node → Prop}

/-- An item the parser misses, after its comma and line break, is no later item. -/
theorem misses_laterItem_refused (k : Nat) {c : Char} {t : List Char}
    (h : after input i = ',' :: '\n' :: (List.replicate k ' ' ++ c :: t)) (hg : GapEnd (c :: t))
    (hbad : ∀ q, after input q = c :: t → Misses item input q) :
    Misses (undoable (lit "," *> gap *> item)) input i := by
  have hcomma : after input i = ",".toList ++ '\n' :: (List.replicate k ' ' ++ c :: t) := h
  have hbreak := after_append hcomma
  have hitem := after_append (show after input _ = ('\n' :: List.replicate k ' ') ++ c :: t from hbreak)
  rw [List.length_cons, List.length_replicate] at hitem
  exact (((takes_lit hcomma).seqRight (takes_gap_break k hbreak hg)).seqRight_fails (hbad _ hitem).fails).undoable

/-- The loop of `moreItems` stops before an item the parser misses. -/
theorem misses_moreItem_refused (k : Nat) {c : Char} {t : List Char}
    (h : after input i = ',' :: '\n' :: (List.replicate k ' ' ++ c :: t)) (hg : GapEnd (c :: t))
    (hbad : ∀ q, after input q = c :: t → Misses item input q) :
    Misses (undoable (gap *> undoable (lit "," *> gap *> item))) input i :=
  ((takes_gap_nil h (gapEnd_comma _)).seqRight_fails (misses_laterItem_refused k h hg hbad).fails).undoable

/-- Before an item there is no closing character for the end of the list to take. -/
theorem fails_listEnd {close : String} {cl c : Char} (hclose : close.toList = [cl]) (k : Nat) {t : List Char}
    (h : after input i = ',' :: '\n' :: (List.replicate k ' ' ++ c :: t)) (hg : GapEnd (c :: t)) (hc : c ≠ cl) :
    Fails (listEnd close) input i := by
  have hcomma : after input i = ",".toList ++ '\n' :: (List.replicate k ' ' ++ c :: t) := h
  have hbreak := after_append hcomma
  have hitem := after_append (show after input _ = ('\n' :: List.replicate k ' ') ++ c :: t from hbreak)
  rw [List.length_cons, List.length_replicate] at hitem
  unfold listEnd
  exact (takes_gap_nil h (gapEnd_comma _)).bind_fails (((takes_lit hcomma).seqRight (takes_pure [])).optional.bind_fails
    ((takes_gap_break k hbreak hg).bind_fails (misses_lit_of_head hclose hitem hc).fails))

/-- After the items that read back, an item the parser misses makes the rest of a container
fail: the loop of `moreItems` stops before it, and the end of the list finds no closing
character there. -/
theorem fails_itemsTail {ys : List α} (hys : ReadsItems input item T G ys) (k : Nat) (close : String)
    {cl c : Char} (hclose : close.toList = [cl]) (out : List Node → List Node) {t : List Char}
    (h : after input i = ys.flatMap (laterText T k) ++ ',' :: '\n' :: (List.replicate k ' ' ++ c :: t))
    (hg : GapEnd (c :: t)) (hc : c ≠ cl) (hbad : ∀ q, after input q = c :: t → Misses item input q) :
    Fails (gap >>= fun _ => moreItems item >>= fun rest => listEnd close >>= fun _ => pure (out rest)) input i := by
  cases ys with
  | nil =>
    rw [List.flatMap_nil, List.nil_append] at h
    have hmore : Takes (moreItems item) input i i [] := by
      unfold moreItems
      exact (misses_laterItem_refused k h hg hbad).bind.fails.undoable.optional
    exact (takes_gap_nil h (gapEnd_comma _)).bind_fails (hmore.bind_fails (fails_listEnd hclose k h hg hc).bind)
  | cons y ys =>
    obtain ⟨hT, hy⟩ := hys y List.mem_cons_self
    have h' := h
    rw [List.flatMap_cons, List.append_assoc] at h'
    obtain ⟨ns, hfirst, -⟩ := takes_laterItem hT hy k h' (valueEnd_laterTexts T k ys (valueEnd_comma _))
    have hrest := after_append h'
    obtain ⟨nss, -, hrun⟩ := runs_laterItems k (valueEnd_comma _) (fun _ hq => misses_moreItem_refused k hq hg hbad)
      ys (fun z hz => hys z (List.mem_cons_of_mem _ hz)) hrest
    have hmany := hrun.takes_many (by have := length_le_of_after hrest; omega)
    exact (takes_gap_nil h (by rw [List.flatMap_cons, laterText]; exact gapEnd_comma _)).bind_fails
      ((hfirst.bind (hmany.bind (takes_pure (ns ++ nss.flatten)))).undoable.optional.bind_fails
        (fails_listEnd hclose k (after_append hrest) hg hc).bind)

end

/-! ## Values -/

/-- A value that `value` misses where its pretty text stands, whatever follows, with any fuel past
the length of its text. -/
def MissedBy (input : Array Char) (v : Json) : Prop :=
  ∀ (level fuel i : Nat) (r : List Char), (Json.pretty level v).toList.length < fuel →
    after input i = (Json.pretty level v).toList ++ r → Misses (value fuel) input i

theorem valueStart_of_refused {c : Char} (hc : c = '"' ∨ c = '[' ∨ c = '\x7b') : ValueStart c := by
  rcases hc with rfl | rfl | rfl
  · exact valueStart_quote
  · exact .inr (.inr (.inr (.inr (.inr (.inr (.inl rfl))))))
  · exact .inr (.inr (.inr (.inr (.inr (.inr (.inr rfl))))))

theorem misses_array {f : Nat} {c : Char} {r : List Char} (h : after input i = c :: r) (hc : c ≠ '[') :
    Misses (array f) input i := by
  cases f with
  | zero =>
    rw [array]
    exact misses_miss
  | succ g =>
    rw [array]
    exact (misses_lit_of_head rfl h hc).bind.fails.undoable.named .array true

/-- At a quote, a bracket or a brace, `value` misses when the string, object and array parsers do. -/
theorem misses_value {f : Nat} {c : Char} {r : List Char} (h : after input i = c :: r)
    (hc : c = '"' ∨ c = '[' ∨ c = '\x7b') (hs : Misses string input i) (ho : Misses (object f) input i)
    (ha : Misses (array f) input i) : Misses (value (f + 1)) input i := by
  have hne : ∀ d : Char, (d = '"' ∨ d = '[' ∨ d = '\x7b' → False) → c ≠ d := by
    rintro d hd rfl
    exact hd hc
  rw [value]
  exact (misses_nullValue h (hne _ (by decide))).first ((misses_boolean h (hne _ (by decide)) (hne _ (by decide))).first
    (hs.first ((misses_number h (by rcases hc with h | h | h <;> simp [h])).first (ho.first ha))))

/-- A member whose key holds a line separator, or whose value `value` misses, makes the member
parser fail, whatever it would do after the value. -/
theorem fails_member_refused {k : String} {x : Json} (level fuel : Nat)
    (hm : ¬ Json.NoLineSeparator k ∨ Json.NoLineSeparator k ∧ Json.Refused x ∧ MissedBy input x)
    (hfuel : (Json.pretty level x).toList.length < fuel) {r : List Char}
    (h : after input i = memberText level (k, x) ++ r) {β : Type} (cont : List Node → List Node → Parse β) :
    Fails (first identifier string >>= fun k => gap >>= fun _ => lit ":" >>= fun _ => gap >>= fun _ =>
      value fuel >>= fun v => cont k v) input i := by
  have h' : after input i = (Json.quote k).toList ++ ':' :: ' ' :: ((Json.pretty level x).toList ++ r) := by
    rw [h, memberText, List.append_assoc]
    rfl
  rcases hm with hk | ⟨hk, hx, hmiss⟩
  · -- the key is neither a name nor a string
    have hquote : after input i = '"' :: ((Json.quote k).toList.drop 1 ++
        ':' :: ' ' :: ((Json.pretty level x).toList ++ r)) := by
      rw [h', toList_quote]
      rfl
    exact ((misses_identifier hquote).first (misses_string_refused hk h')).bind.fails
  · obtain ⟨c, t, hct, hc⟩ := hx.start level
    obtain ⟨parts, -, hkey, hgap₁, hcolon, hgap₂, hvalue⟩ :=
      takes_memberKey hk h' (by rw [hct, List.cons_append]; exact (valueStart_of_refused hc).gapEnd _)
    exact hkey.bind_fails (hgap₁.bind_fails (hcolon.bind_fails (hgap₂.bind_fails
      (hmiss level fuel _ r hfuel hvalue).bind.fails)))

/-! ## Containers -/

/-- An array whose items read back up to a refused one is missed by the array parser. -/
theorem misses_array_refused {pre post : List Json} {x : Json} (hpre : ∀ y ∈ pre, Json.Relaxable y)
    (hx : Json.Refused x) (hmiss : MissedBy input x) (level fuel : Nat) {r : List Char}
    (hfuel : (Json.pretty level (.arr (pre ++ x :: post))).toList.length ≤ fuel)
    (h : after input i = (Json.pretty level (.arr (pre ++ x :: post))).toList ++ r) :
    Misses (array fuel) input i := by
  obtain ⟨y, ys, hys⟩ : ∃ y ys, pre ++ x :: post = y :: ys := by cases pre <;> exact ⟨_, _, rfl⟩
  rw [hys] at hfuel h
  obtain ⟨g, rfl, hitemFuel⟩ := fuel_items hfuel
  have hone : "[".toList.length = 1 := rfl
  rw [toList_pretty_arr] at h
  obtain ⟨c, t, hct, hc⟩ := hx.start (level + 1)
  have hclose : "]".toList = [']'] := rfl
  rw [array]
  cases pre with
  | nil =>
    -- the first item is the refused one
    rw [List.nil_append] at hys
    obtain ⟨rfl, rfl⟩ := List.cons.inj hys
    have hstart := valueStart_of_refused hc
    obtain ⟨hopen, hgap, hno, hfirst⟩ := takes_opening hone hclose hct hstart hstart.ne_close.1 h
    have hval := hmiss (level + 1) g _ _ (hitemFuel x List.mem_cons_self) hfirst
    exact (hopen.bind_fails (hgap.bind_fails (hno.seqRight.first hval.bind.fails.undoable).fails)).undoable.named
      .array true
  | cons y' pre' =>
    -- the first item reads back, and the refused one comes later
    rw [List.cons_append] at hys
    obtain ⟨rfl, rfl⟩ := List.cons.inj hys
    have hrel := hpre _ List.mem_cons_self
    obtain ⟨c₀, t₀, hct₀, hc₀⟩ := valueStart_pretty hrel (level + 1)
    obtain ⟨hopen, hgap, hno, hfirst⟩ := takes_opening hone hclose hct₀ hc₀ hc₀.ne_close.1 h
    obtain ⟨ny, hy, -⟩ := readsBack hrel (level + 1) g _ _ (hitemFuel y' List.mem_cons_self) hfirst
      (valueEnd_laterTexts _ _ _ (valueEnd_break _))
    have hitems : ReadsItems input (value g) (fun y => (Json.pretty (level + 1) y).toList) (ItemStands input) pre' :=
      readsItems_values (fun z hz => ⟨hpre z (List.mem_cons_of_mem _ hz),
      readsBack (hpre z (List.mem_cons_of_mem _ hz))⟩) (level + 1) g
        fun z hz => hitemFuel z (List.mem_cons_of_mem _ (List.mem_append_left _ hz))
    have htail := after_append hfirst
    rw [List.flatMap_append, List.flatMap_cons, laterText, hct] at htail
    simp only [List.append_assoc, List.cons_append] at htail
    have hxfuel := hitemFuel x (List.mem_cons_of_mem _ (List.mem_append_right _ List.mem_cons_self))
    have hfail := fails_itemsTail hitems (2 * (level + 1)) "]" rfl (fun rest => [ny] ++ rest) htail
      ((valueStart_of_refused hc).gapEnd _) (valueStart_of_refused hc).ne_close.1
      (fun q hq => hmiss (level + 1) g q _ hxfuel (by rw [hct, List.cons_append]; exact hq))
    exact (hopen.bind_fails (hgap.bind_fails (hno.seqRight.first (hy.bind_fails hfail).undoable).fails)).undoable.named
      .array true

/-- An object whose members read back up to a refused one is missed by the object parser: the
refused member has a key with a line separator, or a value that `value` misses. -/
theorem misses_object_refused {pre post : List (String × Json)} {k : String} {x : Json}
    (hpre : ∀ m ∈ pre, Json.NoLineSeparator m.1 ∧ Json.Relaxable m.2)
    (hm : ¬ Json.NoLineSeparator k ∨ Json.NoLineSeparator k ∧ Json.Refused x ∧ MissedBy input x)
    (level fuel : Nat) {r : List Char} (hfuel : (Json.pretty level (.obj (pre ++ (k, x) :: post))).toList.length ≤ fuel)
    (h : after input i = (Json.pretty level (.obj (pre ++ (k, x) :: post))).toList ++ r) :
    Misses (object fuel) input i := by
  obtain ⟨m, ms, hms⟩ : ∃ m ms, pre ++ (k, x) :: post = m :: ms := by cases pre <;> exact ⟨_, _, rfl⟩
  rw [hms] at hfuel h
  obtain ⟨g, rfl, hmemberFuel⟩ := fuel_members hfuel
  rw [toList_pretty_obj] at h
  -- the first member's text starts with the quote of its key
  obtain ⟨hopen, hgap, hno, hfirst⟩ := takes_opening rfl (show "\x7d".toList = ['\x7d'] from rfl)
    (memberText_eq _ m) valueStart_quote (by decide) h
  rw [object]
  cases pre with
  | nil =>
    -- the first member is the refused one
    rw [List.nil_append] at hms
    obtain ⟨rfl, rfl⟩ := List.cons.inj hms
    have hxfuel := hmemberFuel (k, x) List.mem_cons_self
    exact (hopen.bind_fails (hgap.bind_fails (hno.seqRight.first
      (fails_member_refused (level + 1) g hm hxfuel hfirst _).undoable).fails)).undoable.named .object true
  | cons m' pre' =>
    -- the first member reads back, and the refused one comes later
    rw [List.cons_append] at hms
    obtain ⟨rfl, rfl⟩ := List.cons.inj hms
    obtain ⟨hkey, hrel⟩ := hpre _ List.mem_cons_self
    obtain ⟨nk, nv, -, -, hcont⟩ := takes_member hkey hrel (readsBack hrel) (level + 1) g
      (hmemberFuel m' List.mem_cons_self) hfirst (valueEnd_laterTexts _ _ _ (valueEnd_break _))
    have hitems := readsItems_members (fun f hf => ⟨(hpre f (List.mem_cons_of_mem _ hf)).1,
      (hpre f (List.mem_cons_of_mem _ hf)).2, @readsBack input _ (hpre f (List.mem_cons_of_mem _ hf)).2⟩) (level + 1) g
      fun f hf => hmemberFuel f (List.mem_cons_of_mem _ (List.mem_append_left _ hf))
    have htail := after_append hfirst
    rw [List.flatMap_append, List.flatMap_cons, laterText] at htail
    simp only [List.append_assoc, List.cons_append] at htail
    rw [memberText_eq _ (k, x), List.cons_append] at htail
    have hxfuel := hmemberFuel (k, x) (List.mem_cons_of_mem _ (List.mem_append_right _ List.mem_cons_self))
    have hfail := fails_itemsTail hitems (2 * (level + 1)) "\x7d" rfl (fun rest => [nk] ++ ([nv] ++ rest)) htail
      (gapEnd_cons (by decide) (by decide) (by decide)) (by decide)
      (fun q hq => (fails_member_refused (level + 1) g hm hxfuel (by rw [memberText_eq _ (k, x), List.cons_append]; exact hq) _).undoable)
    exact (hopen.bind_fails (hgap.bind_fails (hno.seqRight.first (hcont _ hfail).undoable).fails)).undoable.named
      .object true

/-! ## Documents -/

/-- Every refused value is missed by `value` where its pretty text stands. -/
theorem missedBy {v : Json} (hv : Json.Refused v) : MissedBy input v := by
  induction hv with
  | @str s hs =>
    intro level fuel i r hfuel h
    obtain ⟨f, rfl⟩ : ∃ f, fuel = f + 1 := ⟨fuel - 1, by omega⟩
    have htext : (Json.pretty level (.str s)).toList = (Json.quote s).toList := rfl
    rw [htext] at h
    have hq : after input i = '"' :: ((s.toList.flatMap fun c => (Json.escapeChar c).toList) ++ ['"'] ++ r) := by
      rw [h, toList_quote]
      rfl
    exact misses_value hq (.inl rfl) (misses_string_refused hs h) (misses_object hq (by decide))
      (misses_array hq (by decide))
  | @arr pre post x hpre hx ih =>
    intro level fuel i r hfuel h
    obtain ⟨f, rfl⟩ : ∃ f, fuel = f + 1 := ⟨fuel - 1, by omega⟩
    obtain ⟨t, ht⟩ := Json.toList_pretty_arr_head level (pre ++ x :: post)
    have hb : after input i = '[' :: (t ++ r) := by rw [h, ht, List.cons_append]
    exact misses_value hb (.inr (.inl rfl)) (misses_string hb (by decide) (by decide)) (misses_object hb (by decide))
      (misses_array_refused hpre hx ih level f (by omega) h)
  | @key pre post k x hpre hk =>
    intro level fuel i r hfuel h
    obtain ⟨f, rfl⟩ : ∃ f, fuel = f + 1 := ⟨fuel - 1, by omega⟩
    obtain ⟨t, ht⟩ := Json.toList_pretty_obj_head level (pre ++ (k, x) :: post)
    have hb : after input i = '\x7b' :: (t ++ r) := by rw [h, ht, List.cons_append]
    exact misses_value hb (.inr (.inr rfl)) (misses_string hb (by decide) (by decide))
      (misses_object_refused hpre (.inl hk) level f (by omega) h) (misses_array hb (by decide))
  | @member pre post k x hpre hk hx ih =>
    intro level fuel i r hfuel h
    obtain ⟨f, rfl⟩ : ∃ f, fuel = f + 1 := ⟨fuel - 1, by omega⟩
    obtain ⟨t, ht⟩ := Json.toList_pretty_obj_head level (pre ++ (k, x) :: post)
    have hb : after input i = '\x7b' :: (t ++ r) := by rw [h, ht, List.cons_append]
    exact misses_value hb (.inr (.inr rfl)) (misses_string hb (by decide) (by decide))
      (misses_object_refused hpre (.inr ⟨hk, hx, ih⟩) level f (by omega) h) (misses_array hb (by decide))

theorem fails_read_bind {α : Type} {g : Array Char → Parse α} (h : Fails (g input) input i) :
    Fails (read >>= g) input i := by
  intro s hs
  obtain ⟨s', hgo⟩ := h s hs
  exact ⟨s', by rw [go_read_bind, hgo]⟩

/-- **The pretty text of a refused value is no document.** -/
theorem parse_prettyText_refused {v : Json} (hv : Json.Refused v) :
    ∃ e, parse (Json.prettyText v).toList.toArray = .error e := by
  set input := (Json.prettyText v).toList.toArray
  have hstart : after input 0 = (Json.pretty 0 v).toList ++ [] := by
    simp [after, input, Json.prettyText]
  have hsize : input.size = (Json.pretty 0 v).toList.length := by simp [input, Json.prettyText]
  obtain ⟨c, t, hct, hc⟩ := hv.start 0
  have hgap := takes_gap_nil hstart (by rw [hct, List.cons_append]; exact (valueStart_of_refused hc).gapEnd _)
  have hval := missedBy hv 0 (2 * input.size + 2) 0 [] (by omega) hstart
  have hdoc : Fails document input 0 := by
    unfold document
    exact hgap.bind_fails (fails_read_bind hval.bind.fails)
  obtain ⟨s', hgo⟩ := hdoc ⟨0, 0, []⟩ rfl
  unfold parse
  rw [show (document.run input).run.run ⟨0, 0, []⟩ = go document input ⟨0, 0, []⟩ from rfl, hgo]
  exact ⟨_, rfl⟩

end Relaxed

end Warden
