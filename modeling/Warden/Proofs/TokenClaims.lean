import Warden.Proofs.JsonValues
import Warden.Proofs.Base64Url
import Warden.Access.Claims

/-!
# The user id of a token, read from its claims

A token is built from a header, a claims object and a signature (`Claims.token`): the compact
texts of header and claims in URL-safe base64, and the three parts joined by dots. When the
signature holds no dot, cutting at the last two dots gives the three parts back, and decoding
gives the two texts back (`claims_token`). The user id then depends on the claims object alone
(`userId_token_claims`): its `uid` when that is a non-empty text, else its `sub`, else none.

## The second read

The claims are read twice, and the second read, of the registered claims, is the one that can
fail where the first does not. Its fields tolerate a value of the wrong kind, but a failed read
stays where the failure left it, so the object still reads only when every field's reader stops
right after its value, answering or failing (`Json.PassesOver`). A scalar of the wrong kind is
read whole before it is refused (`passesOver_wrongKind`), and a container only when it is empty
(`passesOver_timeClaim`): a filled array under `exp`, or an array under `sub`, is entered and
left half read, which breaks the rest of the object. So the theorem asks that the time claims
hold no filled container and `sub` no container at all.

## Nesting

The first read counts nesting from 128 levels, and the claims object takes one of them, so a
value nested 127 deep inside it is refused (`userId_token_deep`): the statement asks for
`Readable 127` of the whole object.

## Numbers

Both reads take every number a readable object holds. The first reads floats and integers past
64 bits as rounded binary64 values, so it gives back the object's skeleton rather than the
object; texts are kept whole, so the `uid` and `sub` it finds are the object's own. An integer
too large for binary64 is refused (`userId_token_huge`).
-/

namespace Warden

namespace Json

/-- Whether a value is an array or an object. -/
def isContainer : Json → Bool
  | .arr _ | .obj _ => true
  | _ => false

/-- Whether a value is an array or an object with something in it. -/
def isFilled : Json → Bool
  | .arr (_ :: _) | .obj (_ :: _) => true
  | _ => false

/-- `r` passes over `bytes`: from every place where they come next, followed by a delimiter, with
more than `need` containers left to open, it stops right after them, whether it answers or
fails. -/
def PassesOver {α : Type} (need : Nat) (r : Reader α) (bytes : List UInt8) : Prop :=
  ∀ c more, c.rest = bytes ++ more → Delimited more → need < c.depth →
    (outcome r c).2 = c.advanceBy bytes.length

section Passing

variable {α : Type} {need : Nat} {r : Reader α} {bytes : List UInt8}

/-- A reader that always reads its bytes stops right after them. -/
theorem Reads.passesOver {P : α → Prop} (h : Reads False need r bytes P) : PassesOver need r bytes := by
  intro c more hc hmore hdepth
  rcases h c more hc hmore hdepth with ⟨v, -, hrun⟩ | ⟨⟨⟩, -⟩
  rw [hrun]

/-- Placing an error does not move the reader. -/
theorem outcome_placeHere (e : JsonError) (c : Cursor) : ∃ e', outcome (placeHere e) c = (.ok e', c) := by
  unfold placeHere
  split
  · exact ⟨_, rfl⟩
  · exact ⟨_, rfl⟩

theorem outcome_placed_snd (r : Reader α) (c : Cursor) : (outcome (placed r) c).2 = (outcome r c).2 := by
  rw [placed, outcome_tryCatch]
  rcases outcome r c with ⟨e | _, c'⟩
  · obtain ⟨e', he'⟩ := outcome_placeHere e c'
    dsimp only
    rw [outcome_bind_ok he']
    rfl
  · rfl

theorem PassesOver.typed {body : UInt8 → Reader α} {b : UInt8} {bs : List UInt8} (hb : isBlankByte b = false)
    (h : PassesOver need (body b) (b :: bs)) : PassesOver need (Json.typed body) (b :: bs) := by
  intro c more hc hmore hdepth
  rw [Json.typed, outcome_placed_snd, outcome_bind_ok (outcome_skipBlank (hc.trans (List.cons_append ..)) hb)]
  exact h c more hc hmore hdepth

theorem PassesOver.bind_pure {β : Type} (h : PassesOver need r bytes) (x : β) :
    PassesOver need (r >>= fun _ => pure x) bytes := by
  intro c more hc hmore hdepth
  rw [outcome_bind]
  have hpass := h c more hc hmore hdepth
  rcases hrun : outcome r c with ⟨_ | _, c'⟩ <;> rw [hrun] at hpass <;> exact hpass

theorem PassesOver.map {β : Type} (h : PassesOver need r bytes) (g : α → β) : PassesOver need (g <$> r) bytes := by
  intro c more hc hmore hdepth
  have hpass := h c more hc hmore hdepth
  rcases hrun : outcome r c with ⟨_ | _, c'⟩ <;> rw [hrun] at hpass
  · rw [outcome_map_error hrun, hpass]
  · rw [outcome_map_ok hrun, hpass]

/-- The first byte of a number's text: a digit or a minus. -/
theorem head_of_writtenNumber {v : Json} {P : Json → Prop} (hv : WrittenNumber v P) :
    ∃ b bs, Text.encodeUtf8 (compact v) = b :: bs ∧ isBlankByte b = false ∧
      (b = byte '[' → v.isContainer = true) ∧ (b = byte '{' → v.isContainer = true) ∧
      (b = byte 'n' → v = .null) ∧
      (b = byte '"' → ∃ s, v = .str s) := by
  obtain ⟨b, bs, hbs, hb, -, hsq, hcu, hn, hq⟩ := hv.head
  exact ⟨b, bs, hbs, hb, fun h => absurd h hsq, fun h => absurd h hcu, fun h => absurd h hn, fun h => absurd h hq⟩

/-- The first byte of a value's text: no blank, a bracket or brace only for a container, and
`n` only for `null`. -/
theorem head_compact {d : Nat} {v : Json} (hv : Readable d v) :
    ∃ b bs, Text.encodeUtf8 (compact v) = b :: bs ∧ isBlankByte b = false ∧
      (b = byte '[' → v.isContainer = true) ∧ (b = byte '{' → v.isContainer = true) ∧
      (b = byte 'n' → v = .null) ∧
      (b = byte '"' → ∃ s, v = .str s) := by
  cases hv with
  | null =>
    exact ⟨110, _, rfl, by decide, fun h => absurd h (by decide), fun h => absurd h (by decide), fun _ => rfl,
      fun h => absurd h (by decide)⟩
  | bool b =>
    cases b <;> exact ⟨_, _, rfl, by decide, fun h => absurd h (by decide), fun h => absurd h (by decide),
      fun h => absurd h (by decide), fun h => absurd h (by decide)⟩
  | int h => exact head_of_writtenNumber (writtenNumber_int_skeleton h)
  | float h => exact head_of_writtenNumber (writtenNumber_float_skeleton h)
  | str s =>
    exact ⟨34, _, encodeUtf8_compact_str s, by decide, fun h => absurd h (by decide), fun h => absurd h (by decide),
      fun h => absurd h (by decide), fun _ => ⟨s, rfl⟩⟩
  | arr _ =>
    exact ⟨91, _, by rw [encodeUtf8_compact_arr, List.cons_append], by decide, fun _ => rfl,
      fun h => absurd h (by decide), fun h => absurd h (by decide), fun h => absurd h (by decide)⟩
  | obj _ =>
    exact ⟨123, _, by rw [encodeUtf8_compact_obj, List.cons_append], by decide, fun h => absurd h (by decide),
      fun _ => rfl, fun h => absurd h (by decide), fun h => absurd h (by decide)⟩

/-- A number of the wrong kind is read whole before the failure names it. -/
theorem passesOver_wrongKind_written {v : Json} {P : Json → Prop} (hv : WrittenNumber v P) (expected : String) :
    PassesOver need (wrongKind expected : Reader α) (Text.encodeUtf8 (compact v)) := by
  obtain ⟨positive, bytes, htext, hnum⟩ := hv
  obtain ⟨b, bs, rfl, hb⟩ := hnum.head
  intro c more hc hmore _
  rw [htext] at hc ⊢
  cases positive with
  | true =>
    obtain ⟨w, -, hrun⟩ := hnum.reads c more hc hmore
    rw [wrongKind, outcome_bind_ok (outcome_peek c), hc]
    dsimp only [signedBytes, List.cons_append, List.head?_cons]
    rw [if_neg (ne_of_isDigitByte hb (by decide)), if_neg (ne_of_isDigitByte hb (by decide)),
      if_neg (ne_of_isDigitByte hb (by decide)), if_neg (ne_of_isDigitByte hb (by decide)), if_pos hb,
      outcome_bind_ok (outcome_map_ok hrun _), outcome_fail]
  | false =>
    have hrest : c.advance.rest = b :: bs ++ more := by rw [Cursor.advance_rest, hc]; rfl
    obtain ⟨w, -, hrun⟩ := hnum.reads _ more hrest hmore
    rw [wrongKind, outcome_bind_ok (outcome_peek c), hc]
    simp +decide only [signedBytes, List.cons_append, List.head?_cons, ite_true, ite_false]
    rw [outcome_bind_ok (outcome_eat c), outcome_bind_ok (outcome_map_ok hrun _), outcome_fail]
    simp only [List.length_cons, Cursor.advanceBy_succ]

/-- A value of the wrong kind is read whole when it is no container, before the failure names
it. -/
theorem passesOver_wrongKind {d : Nat} {v : Json} (hv : Readable d v) (hs : v.isContainer = false)
    (expected : String) : PassesOver need (wrongKind expected : Reader α) (Text.encodeUtf8 (compact v)) := by
  intro c more hc hmore hdepth
  cases hv with
  | null =>
    rw [encodeUtf8_null] at hc ⊢
    rw [wrongKind, outcome_bind_ok (outcome_peek c), hc]
    simp +decide only [List.cons_append, List.head?_cons, ite_true, ite_false, pure_bind]
    rw [outcome_eat_keyword_then (s := "ull") _ hc, outcome_fail]
    rfl
  | bool b =>
    cases b with
    | false =>
      rw [encodeUtf8_false] at hc ⊢
      rw [wrongKind, outcome_bind_ok (outcome_peek c), hc]
      simp +decide only [List.cons_append, List.head?_cons, ite_true, ite_false, pure_bind]
      rw [outcome_eat_keyword_then (s := "alse") _ hc, outcome_fail]
      rfl
    | true =>
      rw [encodeUtf8_true] at hc ⊢
      rw [wrongKind, outcome_bind_ok (outcome_peek c), hc]
      simp +decide only [List.cons_append, List.head?_cons, ite_true, ite_false, pure_bind]
      rw [outcome_eat_keyword_then (s := "rue") _ hc, outcome_fail]
      rfl
  | int h => exact passesOver_wrongKind_written (writtenNumber_int_skeleton h) expected c more hc hmore hdepth
  | float h => exact passesOver_wrongKind_written (writtenNumber_float_skeleton h) expected c more hc hmore hdepth
  | str s =>
    rw [encodeUtf8_compact_str] at hc ⊢
    have hrest : c.advance.rest = s.toList.flatMap (fun ch => Text.encodeUtf8 (escapeChar ch)) ++ 34 :: more := by
      rw [Cursor.advance_rest, hc]
      simp
    rw [wrongKind, outcome_bind_ok (outcome_peek c), hc]
    simp +decide only [List.cons_append, List.head?_cons, ite_true, ite_false]
    rw [outcome_bind_ok (outcome_eat c), outcome_bind_ok (outcome_map_ok (outcome_string s hrest) _), outcome_fail]
    simp only [List.length_cons, List.length_append, List.length_nil, Nat.zero_add, Cursor.advanceBy_succ]
  | arr _ => cases hs
  | obj _ => cases hs

/-- Text is read where it is given, and any other value that is no container is read whole and
refused. -/
theorem passesOver_readString {d : Nat} {v : Json} (hv : Readable d v) (hs : v.isContainer = false) :
    PassesOver need readString (Text.encodeUtf8 (compact v)) := by
  obtain ⟨b, bs, hbs, hb, -, -, -, hquote⟩ := head_compact hv
  by_cases hq : b = byte '"'
  · obtain ⟨t, rfl⟩ := hquote hq
    exact ((readString_quote t).mono id (Nat.zero_le _) fun _ h => h).passesOver
  · rw [hbs]
    refine PassesOver.typed hb ?_
    rw [if_neg hq, ← hbs]
    exact passesOver_wrongKind hv hs _

/-- `null` is read as no value, and any other value by the reader given. -/
theorem passesOver_readOption {d : Nat} {v : Json} (hv : Readable d v)
    (hr : v ≠ .null → PassesOver need r (Text.encodeUtf8 (compact v))) :
    PassesOver need (readOption r) (Text.encodeUtf8 (compact v)) := by
  obtain ⟨b, bs, hbs, hb, -, -, hnull, -⟩ := head_compact hv
  intro c more hc hmore hdepth
  rw [readOption, outcome_bind_ok (outcome_skipBlank (by rw [hc, hbs, List.cons_append]) hb)]
  dsimp only
  by_cases hn : b = byte 'n'
  · obtain rfl := hnull hn
    rw [if_pos hn]
    rw [encodeUtf8_null] at hc ⊢
    exact congrArg Prod.snd (outcome_eat_keyword (s := "ull") none hc)
  · rw [if_neg hn]
    exact (hr fun h => hn (by rw [h, encodeUtf8_null] at hbs; exact (List.cons.inj hbs).1.symm)).map _ c more hc
      hmore hdepth

/-- A container refused at once is still closed when it is empty: the reader stops after its
closing bracket. -/
theorem outcome_enter_fail_empty {c : Cursor} {more : List UInt8} {p : Problem} {close : Reader Unit} {o k : UInt8}
    (hclose : ∀ c' more', c'.rest = k :: more' → outcome close c' = (.ok (), c'.advance))
    (hc : c.rest = o :: k :: more) (hd : 1 < c.depth) :
    (outcome (enter (fail p : Reader α) close) c).2 = c.advanceBy 2 := by
  -- the nesting budget taken for the contents is given back before the bracket is closed
  have hback : ({ ({ c with depth := c.depth - 1 } : Cursor).advance with
      depth := ({ c with depth := c.depth - 1 } : Cursor).advance.depth + 1 } : Cursor) = c.advance := by
    rw [Cursor.advance_withDepth]
    have hdep := Cursor.advance_depth c
    generalize c.advance = c₁ at hdep ⊢
    cases c₁
    simp only at hdep ⊢
    congr 1
    omega
  have hclosing : c.advance.rest = k :: more := by rw [Cursor.advance_rest, hc]; rfl
  rw [enter, outcome_bind_ok (outcome_get c), outcome_bind_ok (outcome_modify _ c)]
  simp only [if_neg (show c.depth - 1 ≠ 0 by omega)]
  rw [outcome_bind_ok (outcome_eat _), outcome_bind_ok (outcome_attempt _ _), outcome_fail,
    outcome_bind_ok (outcome_modify _ _), outcome_bind_ok (outcome_attempt _ _), hback, hclose _ _ hclosing]
  rfl

end Passing

end Json

namespace Claims

open Json

/-- Cutting at the last dot finds the dot before a part that holds none. -/
theorem cutLast_dot (s t : String) (ht : '.' ∉ t.toList) : cutLast (s ++ "." ++ t) = some (t, s) := by
  have hdot : ".".toList = ['.'] := rfl
  -- the last dot, counted from the end, is the one right before `t`
  have hidx : (t.toList.reverse ++ ('.' :: s.toList.reverse)).findIdx? (· = '.') = some t.toList.length := by
    rw [List.findIdx?_append, List.findIdx?_eq_none_iff.2 fun x hx =>
      decide_eq_false fun (h : x = '.') => ht (h ▸ List.mem_reverse.1 hx)]
    simp [List.findIdx?_cons]
  have hlen : (s.toList ++ ['.'] ++ t.toList).length - 1 - t.toList.length = s.toList.length := by
    simp only [List.length_append, List.length_singleton]
    omega
  unfold cutLast
  simp only [String.toList_append, hdot, List.reverse_append, List.reverse_singleton, List.singleton_append]
  rw [hidx]
  dsimp only
  rw [hlen]
  simp

/-- The token of a header, a claims object and a signature: the compact texts of the first two in
URL-safe base64, and the three parts joined by dots. -/
def token (header body : Json) (signature : String) : String :=
  Text.encodeBase64Url (Text.encodeUtf8 (Json.compact header)) ++ "." ++
    Text.encodeBase64Url (Text.encodeUtf8 (Json.compact body)) ++ "." ++ signature

/-- A part decodes to the bytes it encodes. -/
theorem part_encode (bytes : List UInt8) : part (Text.encodeBase64Url bytes) = .ok bytes := by
  rw [part, Text.decodeBase64Url_encode]

/-- The claims of a token are those its claims object reads as, whatever the signature, once the
header is accepted. -/
theorem claims_token (header body : Json) (sig : String) (hsig : '.' ∉ sig.toList)
    (hheader : Json.readText headerShape.read (Json.compact header) = .ok ()) :
    claims (token header body sig) = (do
      let object ← document Json.readObject (Text.encodeUtf8 (Json.compact body))
      document registeredShape.read (Text.encodeUtf8 (Json.compact body))
      return object) := by
  have hdoc : document headerShape.read (Text.encodeUtf8 (Json.compact header)) = .ok () := by
    rw [Json.readText, Text.toUTF8_toList] at hheader
    rw [document, hheader]
  rw [claims, token, cutLast_dot _ _ hsig]
  dsimp only
  rw [cutLast_dot _ _ (Text.dot_not_mem_encodeBase64Url _)]
  simp only [part_encode, except_ok_bind, hdoc]

/-- A tolerated field read that stops right after its value reads the value, whatever it
answered. -/
theorem reads_tolerant {need : Nat} {r : Reader Unit} {bytes : List UInt8} (h : PassesOver need r bytes) :
    Reads False need (tolerant r) bytes (fun _ => True) := by
  intro c more hc hmore hdepth
  refine .inl ⟨(), trivial, ?_⟩
  rw [tolerant, outcome_bind_ok (outcome_attempt r c), h c more hc hmore hdepth]
  rfl

/-- A time claim is read as a value when it is no container, and an empty container is entered,
refused and closed: either way the reader stops right after it. -/
theorem passesOver_timeClaim {need : Nat} {v : Json} (hv : Readable need v) (hfilled : v.isFilled = false)
    (hneed : 0 < need) :
    PassesOver need timeClaim (Text.encodeUtf8 (compact v)) := by
  cases hcont : v.isContainer with
  | false =>
    -- no bracket or brace opens it, so it is read as a value
    obtain ⟨b, bs, hbs, hb, hsq, hcu, -, -⟩ := head_compact hv
    rw [hbs]
    refine PassesOver.typed hb ?_
    rw [if_neg fun h => absurd (hsq h) (by rw [hcont]; decide), if_neg fun h => absurd (hcu h) (by rw [hcont]; decide),
      ← hbs]
    exact (readAny_compact hv).passesOver.bind_pure ()
  | true =>
    cases hv with
    | @arr d xs _ =>
      obtain rfl : xs = [] := by
        cases xs with
        | nil => rfl
        | cons _ _ => cases hfilled
      rw [show Text.encodeUtf8 (compact (.arr [])) = [91, 93] by rw [encodeUtf8_compact_arr]; rfl]
      refine PassesOver.typed (by decide) ?_
      rw [if_pos (show (91 : UInt8) = byte '[' from rfl)]
      exact fun c more hc _ hdepth => outcome_enter_fail_empty (fun _ _ h => outcome_closeList h) hc (by omega)
    | @obj d fs _ =>
      obtain rfl : fs = [] := by
        cases fs with
        | nil => rfl
        | cons _ _ => cases hfilled
      rw [show Text.encodeUtf8 (compact (.obj [])) = [123, 125] by rw [encodeUtf8_compact_obj]; rfl]
      refine PassesOver.typed (by decide) ?_
      rw [if_neg (show (123 : UInt8) ≠ byte '[' by decide), if_pos (show (123 : UInt8) = byte '{' from rfl)]
      exact fun c more hc _ hdepth => outcome_enter_fail_empty (fun _ _ h => outcome_closeObject h) hc (by omega)
    | _ => cases hcont

/-- A key that names no registered claim is skipped by the second read of the claims. -/
theorem registeredShape_find?_none {k : String} (hk : k ∉ ["exp", "nbf", "sub", "iss", "aud"]) :
    registeredShape.find? k = none := by
  rw [Shape.find?, List.find?_eq_none]
  intro f hf
  simp only [registeredShape, List.mem_cons, List.not_mem_nil, or_false] at hf
  simp only [List.mem_cons, List.not_mem_nil, or_false, not_or] at hk
  rcases hf with rfl | rfl | rfl | rfl | rfl <;> simp only [beq_iff_eq] <;> exact fun h => by simp_all

/-- How the second read of the claims takes each member: the time claims and `sub` tolerate a
value of the wrong kind that is read whole, `iss` and `aud` take any value, and every other key
is skipped. -/
theorem registeredShape_takes {m : String × Json} (hv : Readable 126 m.2)
    (htime : m.1 = "exp" ∨ m.1 = "nbf" → m.2.isFilled = false) (hsub : m.1 = "sub" → m.2.isContainer = false) :
    registeredShape.Takes False 126 (fun _ _ _ => True) m := by
  obtain ⟨k, v⟩ := m
  dsimp only at hv htime hsub
  by_cases htimeKey : k = "exp" ∨ k = "nbf"
  · have hfilled := htime htimeKey
    rcases htimeKey with rfl | rfl <;> exact fun _ => reads_tolerant (passesOver_timeClaim hv hfilled (by decide))
  by_cases hs : k = "sub"
  · subst hs
    exact fun _ => reads_tolerant ((passesOver_readOption hv fun _ => passesOver_readString hv (hsub rfl)).bind_pure ())
  by_cases hanyKey : k = "iss" ∨ k = "aud"
  · rcases hanyKey with rfl | rfl <;>
      exact fun _ => reads_tolerant ((passesOver_readOption hv fun _ => (readAny_compact hv).passesOver).bind_pure ())
  have hother : k ∉ ["exp", "nbf", "sub", "iss", "aud"] := by
    simp only [List.mem_cons, List.not_mem_nil, or_false, not_or] at htimeKey hanyKey ⊢
    exact ⟨htimeKey.1, htimeKey.2, hs, hanyKey.1, hanyKey.2⟩
  rw [Shape.Takes, registeredShape_find?_none hother]
  exact ⟨skip_compact hv, fun _ => trivial⟩

/-- The second read of the claims passes over every claims object whose values have integer
numbers, whose time claims are no filled containers and whose `sub` is no container. -/
theorem registeredShape_read_compact {fs : List (String × Json)} (hv : ∀ m ∈ fs, Readable 126 m.2)
    (hkeys : (fs.map (·.1)).Nodup) (htime : ∀ m ∈ fs, m.1 = "exp" ∨ m.1 = "nbf" → m.2.isFilled = false)
    (hsub : ∀ m ∈ fs, m.1 = "sub" → m.2.isContainer = false) :
    Reads False 127 registeredShape.read (Text.encodeUtf8 (compact (.obj fs))) (fun _ => True) := by
  refine (Shape.read_compact_obj_takes (fun _ _ _ => True) fs
    (fun m hm => registeredShape_takes (hv m hm) (htime m hm) (hsub m hm)) hkeys ?_).mono id (Nat.le_refl _)
    fun _ _ => trivial
  -- no registered claim is required
  intro f hf hreq
  simp only [registeredShape, List.mem_cons, List.not_mem_nil, or_false] at hf
  rcases hf with rfl | rfl | rfl | rfl | rfl <;> cases hreq

/-- A reader that always reads its bytes reads them as a whole document. -/
theorem document_of_reads {α : Type} {need : Nat} {r : Reader α} {bytes : List UInt8} {P : α → Prop}
    (h : Reads False need r bytes P) (hneed : need < 128) : ∃ v, P v ∧ document r bytes = .ok v := by
  rcases readDocument_of_reads h hneed with ⟨v, hv, hdoc⟩ | ⟨⟨⟩, -⟩
  exact ⟨v, hv, by rw [document, hdoc]⟩

/-- The claims of a token are its claims object up to its skeleton, whatever its signature,
when the header is accepted and the object's values are readable and nest at most 127 deep. -/
theorem claims_token_readable {header : Json} (hheader : readText headerShape.read (compact header) = .ok ())
    {fs : List (String × Json)} (hC : Readable 127 (.obj fs)) (hkeys : (fs.map (·.1)).Nodup)
    (htime : ∀ m ∈ fs, m.1 = "exp" ∨ m.1 = "nbf" → m.2.isFilled = false)
    (hsub : ∀ m ∈ fs, m.1 = "sub" → m.2.isContainer = false) {sig : String} (hsig : '.' ∉ sig.toList) :
    ∃ gs, skeletonFields gs = skeletonFields fs ∧ claims (token header (.obj fs) sig) = .ok gs := by
  have hv : ∀ m ∈ fs, Readable 126 m.2 := by
    cases hC with
    | obj h => exact h
  obtain ⟨object, hobject, hread⟩ := document_of_reads (readObject_compact hv) (by decide)
  obtain ⟨_, -, hregistered⟩ := document_of_reads (registeredShape_read_compact hv hkeys htime hsub) (by decide)
  refine ⟨object, hobject, ?_⟩
  rw [claims_token header _ sig hsig hheader, hread, except_ok_bind, hregistered, except_ok_bind]
  rfl

/-- A token holds its dots, so it is never empty. -/
theorem token_isEmpty (header body : Json) (sig : String) : (token header body sig).isEmpty = false := by
  have hdot : '.' ∈ (token header body sig).toList := by simp [token]
  cases h : (token header body sig).isEmpty with
  | false => rfl
  | true => rw [String.isEmpty_iff.1 h] at hdot; simp at hdot

/-- The first claim that is a non-empty text is the answer. -/
theorem firstText_cons_text {fs : List (String × Json)} {k u : String} (ks : List String)
    (h : (Json.obj fs).field? k = some (.str u)) (hu : u ≠ "") : firstText fs (k :: ks) = some u := by
  rw [firstText, h]
  simp [String.isEmpty_iff, hu]

/-- A claim that is missing, no text, or empty text is passed by. -/
theorem firstText_cons_skip {fs : List (String × Json)} {k : String} (ks : List String)
    (h : ∀ u, (Json.obj fs).field? k = some (.str u) → u = "") : firstText fs (k :: ks) = firstText fs ks := by
  rw [firstText]
  split
  · next u hu => rw [if_pos (String.isEmpty_iff.2 (h u hu))]
  · rfl

/-- Claims with one skeleton give the same first text. -/
theorem firstText_skeleton {gs fs : List (String × Json)} (h : skeletonFields gs = skeletonFields fs)
    (ks : List String) : firstText gs ks = firstText fs ks := by
  induction ks with
  | nil => rfl
  | cons k ks ih =>
    by_cases hk : ∃ u, (Json.obj fs).field? k = some (.str u) ∧ u ≠ ""
    · obtain ⟨u, hu, hne⟩ := hk
      rw [firstText_cons_text ks ((field?_str_iff h k u).2 hu) hne, firstText_cons_text ks hu hne]
    · simp only [not_exists, not_and, not_not] at hk
      rw [firstText_cons_skip ks fun u hu => hk u ((field?_str_iff h k u).1 hu), firstText_cons_skip ks hk, ih]

/-- The user id of a non-empty token whose claims read is the first of `uid` and `sub` that is a
non-empty text. -/
theorem userId_of_claims {tok : String} {fs : List (String × Json)} (hne : tok.isEmpty = false)
    (h : claims tok = .ok fs) : userId tok = (firstText fs ["uid", "sub"]).elim (.error .missingUserId) .ok := by
  rw [userId, if_neg (by simp [hne]), h]
  dsimp only
  cases firstText fs ["uid", "sub"] <;> rfl

/-- The user id of a token is read from its claims alone: its `uid` when that is a non-empty
text, else its `sub` when that is, and otherwise it is missing. The signature, the header past
its check and every other claim play no part. The claims object's numbers are readable, and it
nests at most 127 deep, itself counted. -/
theorem userId_token_claims (header : Json) (hheader : readText headerShape.read (compact header) = .ok ())
    (fs : List (String × Json)) (hC : Readable 127 (.obj fs)) (hkeys : (fs.map (·.1)).Nodup)
    (htime : ∀ m ∈ fs, m.1 = "exp" ∨ m.1 = "nbf" → m.2.isFilled = false)
    (hsub : ∀ m ∈ fs, m.1 = "sub" → m.2.isContainer = false) (sig : String) (hsig : '.' ∉ sig.toList) :
    (∀ u, (Json.obj fs).field? "uid" = some (.str u) → u ≠ "" →
      userId (token header (.obj fs) sig) = .ok u) ∧
    (∀ s, (∀ u, (Json.obj fs).field? "uid" = some (.str u) → u = "") →
      (Json.obj fs).field? "sub" = some (.str s) → s ≠ "" →
      userId (token header (.obj fs) sig) = .ok s) ∧
    ((∀ u, (Json.obj fs).field? "uid" = some (.str u) → u = "") →
      (∀ s, (Json.obj fs).field? "sub" = some (.str s) → s = "") →
      userId (token header (.obj fs) sig) = .error .missingUserId) ∧
    userId "" = .error .emptyToken := by
  obtain ⟨gs, hgs, hclaims⟩ := claims_token_readable hheader hC hkeys htime hsub hsig
  have huser := userId_of_claims (token_isEmpty header (.obj fs) sig) hclaims
  rw [firstText_skeleton hgs] at huser
  refine ⟨fun u hu hne => ?_, fun s huid hs hne => ?_, fun huid hsubEmpty => ?_, rfl⟩
  · rw [huser, firstText_cons_text _ hu hne, Option.elim_some]
  · rw [huser, firstText_cons_skip _ huid, firstText_cons_text _ hs hne, Option.elim_some]
  · rw [huser, firstText_cons_skip _ huid, firstText_cons_skip _ hsubEmpty, firstText, Option.elim_none]

/-- The header of a token signed with `HS256` is accepted. -/
theorem readText_header_alg : readText headerShape.read (compact (.obj [("alg", .str "HS256")])) = .ok () := by
  have h : (readText headerShape.read (compact (.obj [("alg", .str "HS256")]))).toBool = true := by
    decide +kernel
  revert h
  cases readText headerShape.read (compact (.obj [("alg", .str "HS256")])) with
  | error e => intro h; cases h
  | ok u => intro _; rfl

theorem userId_token_uid :
    userId (token (.obj [("alg", .str "HS256")])
      (.obj [("uid", .str "u"), ("exp", .int 5), ("iat", .float (.finite false 3 (-1)))]) "sig") = .ok "u" :=
  (userId_token_claims _ readText_header_alg _
    (.obj fun m hm => by
      simp only [List.mem_cons, List.not_mem_nil, or_false] at hm
      rcases hm with rfl | rfl | rfl
      exacts [.str _, .int_of_bits (by decide) (by decide), .float (by decide)])
    (by decide) (by decide) (by decide) _ (by decide)).1 "u" rfl (by decide)

/-- Arrays nested `n + 1` deep. -/
def nested : Nat → Json
  | 0 => .arr []
  | n + 1 => .arr [nested n]

/-- The text of nested arrays is their opening brackets and then their closing ones. -/
theorem encodeUtf8_compact_nested (n : Nat) :
    Text.encodeUtf8 (compact (nested n)) = List.replicate (n + 1) 91 ++ List.replicate (n + 1) 93 := by
  induction n with
  | zero => rfl
  | succ n ih =>
    rw [nested, encodeUtf8_compact_arr, compactItems, ih, List.replicate_succ (n := n + 1),
      List.replicate_succ' (n := n + 1)]
    simp

/-- A read that answers no value has failed, with the message it gives. -/
theorem exists_error_of_message {α : Type} {r : Except JsonError α} {s : String}
    (h : (match r with | .ok _ => none | .error e => some e.message) = some s) : ∃ e, r = .error e ∧ e.message = s := by
  cases r with
  | ok v => cases h
  | error e => exact ⟨e, rfl, Option.some.inj h⟩

/-- A token whose claims object the first read refuses is refused with that read's message. -/
theorem userId_token_of_refused {body : Json} {e : JsonError} {s : String}
    (hdoc : Json.readDocument Json.readObject (Text.encodeUtf8 (compact body)) = .error e) (he : e.message = s) :
    userId (token (.obj [("alg", .str "HS256")]) body "sig") = .error (.malformed ("JSON error: " ++ s)) := by
  rw [userId, if_neg (by simp [token_isEmpty]), claims_token _ _ _ (by decide) readText_header_alg, document, hdoc]
  show Except.error (ExtractError.malformed ("JSON error: " ++ e.message)) = _
  rw [he]

/-- Claims that nest 128 deep, the object counted, are refused by the first read, even though
they hold a `uid`. -/
theorem userId_token_deep :
    userId (token (.obj [("alg", .str "HS256")]) (.obj [("uid", .str "u"), ("x", nested 126)]) "sig") =
      .error (.malformed "JSON error: recursion limit exceeded at line 1 column 142") := by
  obtain ⟨e, hdoc, he⟩ := exists_error_of_message (r := Json.readDocument Json.readObject
      (Text.encodeUtf8 (compact (.obj [("uid", .str "u"), ("x", nested 126)]))))
      (s := "recursion limit exceeded at line 1 column 142") (by
    simp only [compact, compactFields, Text.encodeUtf8_append, encodeUtf8_compact_nested]
    decide +kernel)
  exact userId_token_of_refused hdoc he

/-- The largest finite binary64 value, `(2^53 - 1) · 2^971`, as an integer. -/
def largestFinite : Int := 2 ^ 1024 - 2 ^ 971

/-- Claims holding the largest finite binary64 value as an integer are refused by the first read,
which rounds the integer's leading digits and its power of ten apart and overflows, even though
they hold a `uid`. -/
theorem userId_token_huge :
    userId (token (.obj [("alg", .str "HS256")]) (.obj [("uid", .str "u"), ("x", .int largestFinite)]) "sig") =
      .error (.malformed "JSON error: number out of range at line 1 column 324") := by
  obtain ⟨e, hdoc, he⟩ := exists_error_of_message (r := Json.readDocument Json.readObject
      (Text.encodeUtf8 (compact (.obj [("uid", .str "u"), ("x", .int largestFinite)]))))
      (s := "number out of range at line 1 column 324") (by decide +kernel)
  exact userId_token_of_refused hdoc he

/-- Both limits of the claims a token can carry: nesting past 127 levels, and an integer past
the binary64 range once rounded. -/
theorem userId_token_limits :
    userId (token (.obj [("alg", .str "HS256")]) (.obj [("uid", .str "u"), ("x", nested 126)]) "sig") =
        .error (.malformed "JSON error: recursion limit exceeded at line 1 column 142") ∧
      userId (token (.obj [("alg", .str "HS256")]) (.obj [("uid", .str "u"), ("x", .int largestFinite)]) "sig") =
        .error (.malformed "JSON error: number out of range at line 1 column 324") :=
  ⟨userId_token_deep, userId_token_huge⟩

end Claims

end Warden
