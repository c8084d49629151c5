import Warden.Json.Decode
import Warden.Proofs.Utf8

/-!
# Reading back compact text

The reader reads back what the compact writer writes. A reader `r` *reads* bytes into values
with a property (`Reads`) when, from every place where those bytes come next and a delimiter
follows them, it answers such a value and stops right after the bytes; a failure is allowed
only under a stated condition, which is `False` when the read always succeeds. Texts read back
always (`readString_quote`); integers read back when they fit 64 signed bits and fail
otherwise (`readI64_toString`).

The reader is a state-and-error monad over a cursor; `outcome` runs it from a cursor, and the
lemmas of the first section take a run apart one step at a time.
-/

namespace Warden

namespace Json

/-- What a reader answers from a cursor, and the cursor it leaves. -/
def outcome {α : Type} (r : Reader α) (c : Cursor) : Except JsonError α × Cursor :=
  (ExceptT.run r).run c

/-! ## Running a reader -/

section Outcome

variable {α β : Type} {r : Reader α} {c c' : Cursor}

theorem outcome_bind (r : Reader α) (f : α → Reader β) (c : Cursor) :
    outcome (r >>= f) c = match outcome r c with
      | (.ok a, c') => outcome (f a) c'
      | (.error e, c') => (.error e, c') := by
  unfold outcome
  rw [ExceptT.run_bind, StateT.run_bind]
  rcases (ExceptT.run r).run c with ⟨_ | _, c'⟩ <;> rfl

theorem outcome_bind_ok {a : α} (h : outcome r c = (.ok a, c')) (f : α → Reader β) :
    outcome (r >>= f) c = outcome (f a) c' := by
  rw [outcome_bind, h]

theorem outcome_bind_error {e : JsonError} (h : outcome r c = (.error e, c')) (f : α → Reader β) :
    outcome (r >>= f) c = (.error e, c') := by
  rw [outcome_bind, h]

theorem outcome_tryCatch (r : Reader α) (h : JsonError → Reader α) (c : Cursor) :
    outcome (tryCatch r h) c = match outcome r c with
      | (.ok a, c') => (.ok a, c')
      | (.error e, c') => outcome (h e) c' := by
  unfold outcome
  rw [ExceptT.run_tryCatch, StateT.run_bind]
  rcases (ExceptT.run r).run c with ⟨_ | _, c'⟩ <;> rfl

theorem outcome_tryCatch_ok {a : α} (hr : outcome r c = (.ok a, c')) (h : JsonError → Reader α) :
    outcome (tryCatch r h) c = (.ok a, c') := by
  rw [outcome_tryCatch, hr]

/-- Every run ends in an answer or in an error. -/
theorem outcome_cases (r : Reader α) (c : Cursor) :
    (∃ a c', outcome r c = (.ok a, c')) ∨ ∃ e c', outcome r c = (.error e, c') := by
  rcases h : outcome r c with ⟨_ | a, c'⟩
  · exact .inr ⟨_, _, rfl⟩
  · exact .inl ⟨_, _, rfl⟩

@[simp] theorem outcome_pure (a : α) (c : Cursor) : outcome (pure a : Reader α) c = (.ok a, c) := rfl

@[simp] theorem outcome_get (c : Cursor) : outcome (get : Reader Cursor) c = (.ok c, c) := rfl

@[simp] theorem outcome_modify (f : Cursor → Cursor) (c : Cursor) :
    outcome (modify f : Reader Unit) c = (.ok (), f c) := rfl

@[simp] theorem outcome_throw (e : JsonError) (c : Cursor) :
    outcome (throw e : Reader α) c = (.error e, c) := rfl

@[simp] theorem outcome_peek (c : Cursor) : outcome peek c = (.ok c.rest.head?, c) := rfl

@[simp] theorem outcome_eat (c : Cursor) : outcome eat c = (.ok (), c.advance) := rfl

@[simp] theorem outcome_eatN (n : Nat) (c : Cursor) : outcome (eatN n) c = (.ok (), c.advanceBy n) := rfl

@[simp] theorem outcome_next (c : Cursor) : outcome next c = (.ok c.rest.head?, c.advance) := rfl

@[simp] theorem outcome_frontDigits (c : Cursor) :
    outcome frontDigits c = (.ok (c.rest.takeWhile isDigitByte), c) := rfl

theorem outcome_failHere (code : SyntaxCode) (c : Cursor) :
    ∃ e, outcome (failHere code : Reader α) c = (.error e, c) := ⟨_, rfl⟩

theorem outcome_failAhead (code : SyntaxCode) (c : Cursor) :
    ∃ e, outcome (failAhead code : Reader α) c = (.error e, c) := ⟨_, rfl⟩

theorem outcome_fail (p : Problem) (c : Cursor) :
    outcome (fail p : Reader α) c = (.error (JsonError.ofProblem p), c) := rfl

/-- A reader whose answer is mapped answers the mapped value. -/
theorem outcome_map_ok {a : α} (h : outcome r c = (.ok a, c')) (g : α → β) :
    outcome (g <$> r) c = (.ok (g a), c') := by
  rw [map_eq_pure_bind, outcome_bind_ok h]
  rfl

theorem outcome_map_error {e : JsonError} (h : outcome r c = (.error e, c')) (g : α → β) :
    outcome (g <$> r) c = (.error e, c') := by
  rw [map_eq_pure_bind, outcome_bind_error h]

/-- A placed reader that answers is the reader itself. -/
theorem outcome_placed_ok {a : α} (h : outcome r c = (.ok a, c')) : outcome (placed r) c = (.ok a, c') :=
  outcome_tryCatch_ok h _

/-- A placed reader that fails still fails. -/
theorem outcome_placed_error {e : JsonError} (h : outcome r c = (.error e, c')) :
    ∃ e' c'', outcome (placed r) c = (.error e', c'') := by
  rw [placed, outcome_tryCatch, h]
  dsimp only
  rw [outcome_bind]
  unfold placeHere
  split
  · exact ⟨_, _, rfl⟩
  · exact ⟨_, _, rfl⟩

end Outcome

/-! ## The cursor -/

namespace Cursor

variable (c : Cursor)

@[simp] theorem advance_rest : c.advance.rest = c.rest.tail := by
  unfold advance
  split
  · next h => rw [h]; rfl
  · next b r h => split <;> simp [h]

@[simp] theorem advance_depth : c.advance.depth = c.depth := by
  unfold advance
  split
  · rfl
  · split <;> rfl

@[simp] theorem advanceBy_zero : c.advanceBy 0 = c := rfl

theorem advanceBy_succ (n : Nat) : c.advanceBy (n + 1) = c.advance.advanceBy n := rfl

theorem advanceBy_add (m n : Nat) : c.advanceBy (m + n) = (c.advanceBy m).advanceBy n := by
  induction m generalizing c with
  | zero => rw [Nat.zero_add]; rfl
  | succ m ih => rw [Nat.succ_add, advanceBy_succ, advanceBy_succ, ih]

theorem advanceBy_one : c.advanceBy 1 = c.advance := rfl

@[simp] theorem advanceBy_rest (n : Nat) : (c.advanceBy n).rest = c.rest.drop n := by
  induction n generalizing c with
  | zero => rfl
  | succ n ih => rw [advanceBy_succ, ih, advance_rest, List.drop_tail]

@[simp] theorem advanceBy_depth (n : Nat) : (c.advanceBy n).depth = c.depth := by
  induction n generalizing c with
  | zero => rfl
  | succ n ih => rw [advanceBy_succ, ih, advance_depth]

/-- Moving on does not look at the nesting budget. -/
theorem advance_withDepth (d : Nat) : ({ c with depth := d } : Cursor).advance = { c.advance with depth := d } := by
  rcases c with ⟨_ | ⟨b, r⟩, index, line, lineStart, depth⟩
  · rfl
  · by_cases hb : b = 10 <;> simp [advance, hb]

theorem advanceBy_withDepth (d n : Nat) :
    ({ c with depth := d } : Cursor).advanceBy n = { c.advanceBy n with depth := d } := by
  induction n generalizing c with
  | zero => rfl
  | succ n ih => rw [advanceBy_succ, advance_withDepth, ih, advanceBy_succ]

/-- Over bytes that come next, moving on by their count leaves what follows them. -/
theorem advanceBy_append {bytes more : List UInt8} (h : c.rest = bytes ++ more) :
    (c.advanceBy bytes.length).rest = more := by
  rw [advanceBy_rest, h, List.drop_left]

end Cursor

/-! ## Reading bytes back -/

/-- What may follow a value in compact text: nothing, a comma, or a closing bracket or brace. -/
def Delimited (more : List UInt8) : Prop := ∀ b ∈ more.head?, b = 44 ∨ b = 93 ∨ b = 125

/-- `r` reads `bytes` into a value with property `P`: from every cursor where `bytes` come next,
followed by a delimiter, with more than `need` containers left to open, it answers such a value
and stops right after `bytes`, or else it fails, which it may only when `F` holds. -/
def Reads {α : Type} (F : Prop) (need : Nat) (r : Reader α) (bytes : List UInt8) (P : α → Prop) : Prop :=
  ∀ c more, c.rest = bytes ++ more → Delimited more → need < c.depth →
    (∃ v, P v ∧ outcome r c = (.ok v, c.advanceBy bytes.length)) ∨
      (F ∧ ∃ e c', outcome r c = (.error e, c'))

namespace Reads

variable {α β : Type} {F F' : Prop} {need need' : Nat} {r : Reader α} {bytes : List UInt8} {P P' : α → Prop}

theorem mono (h : Reads F need r bytes P) (hF : F → F') (hneed : need ≤ need') (hP : ∀ v, P v → P' v) :
    Reads F' need' r bytes P' := by
  intro c more hc hmore hdepth
  rcases h c more hc hmore (by omega) with ⟨v, hv, hrun⟩ | ⟨hf, herr⟩
  · exact .inl ⟨v, hP v hv, hrun⟩
  · exact .inr ⟨hF hf, herr⟩

/-- A read whose answer is turned into another value reads the other value. -/
theorem map (h : Reads F need r bytes P) (g : α → β) :
    Reads F need (r >>= fun a => pure (g a)) bytes (fun b => ∃ a, P a ∧ b = g a) := by
  intro c more hc hmore hdepth
  rcases h c more hc hmore hdepth with ⟨v, hv, hrun⟩ | ⟨hf, e, c', herr⟩
  · exact .inl ⟨g v, ⟨v, hv, rfl⟩, by rw [outcome_bind_ok hrun]; rfl⟩
  · exact .inr ⟨hf, e, c', by rw [outcome_bind_error herr]⟩

end Reads

/-- Blanks are skipped up to the next byte that is none: where that is the next byte, nothing
moves. -/
theorem outcome_skipBlank {c : Cursor} {b : UInt8} {more : List UInt8} (h : c.rest = b :: more)
    (hb : isBlankByte b = false) : outcome skipBlank c = (.ok (some b), c) := by
  have hnil : c.rest.takeWhile isBlankByte = [] := by rw [h, List.takeWhile_cons, hb]; rfl
  rw [skipBlank, outcome_bind_ok (outcome_modify _ c), hnil, List.length_nil, Cursor.advanceBy_zero,
    outcome_peek, h, List.head?_cons]

/-- A read that decides on its first byte, when that byte is no blank, is the read of that
byte. -/
theorem Reads.typed {α : Type} {F : Prop} {need : Nat} {body : UInt8 → Reader α} {b : UInt8}
    {bs : List UInt8} {P : α → Prop} (hb : isBlankByte b = false) (h : Reads F need (body b) (b :: bs) P) :
    Reads F need (typed body) (b :: bs) P := by
  intro c more hc hmore hdepth
  have hskip : outcome skipBlank c = (.ok (some b), c) := outcome_skipBlank (hc.trans (List.cons_append ..)) hb
  -- the definition's own match on the byte read is kept, not written again here
  unfold Json.typed
  rcases h c more hc hmore hdepth with ⟨v, hv, hrun⟩ | ⟨hf, e, c', herr⟩
  · exact .inl ⟨v, hv, outcome_placed_ok ((outcome_bind_ok hskip _).trans hrun)⟩
  · exact .inr ⟨hf, outcome_placed_error ((outcome_bind_ok hskip _).trans herr)⟩

/-! ## Strings -/

/-- A byte that a string holds as it is: no quote, no backslash, no control character. -/
def Plain (b : UInt8) : Prop := b ≠ 34 ∧ b ≠ 92 ∧ ¬ b < 32

section Strings

variable {c c' : Cursor} {more : List UInt8} {acc : List UInt8} {fuel : Nat}

theorem stringBody_plain {b : UInt8} (h : c.rest = b :: more) (hb : Plain b) :
    outcome (stringBody (fuel + 1) acc) c = outcome (stringBody fuel (b :: acc)) c.advance := by
  rw [stringBody, outcome_bind_ok (outcome_peek c), h]
  simp only [List.head?_cons, if_neg hb.1, if_neg hb.2.1, if_neg hb.2.2]
  rw [outcome_bind_ok (outcome_eat _)]

/-- Plain bytes are taken one by one, a step of fuel each. -/
theorem stringBody_plains {bs : List UInt8} (h : c.rest = bs ++ more) (hbs : ∀ b ∈ bs, Plain b) :
    outcome (stringBody (fuel + bs.length) acc) c =
      outcome (stringBody fuel (bs.reverse ++ acc)) (c.advanceBy bs.length) := by
  induction bs generalizing c acc with
  | nil => rfl
  | cons b bs ih =>
    have hnext : c.advance.rest = bs ++ more := by rw [Cursor.advance_rest, h]; rfl
    rw [List.length_cons, ← Nat.add_assoc, stringBody_plain (h.trans (List.cons_append ..))
      (hbs b List.mem_cons_self), ih hnext fun x hx => hbs x (List.mem_cons_of_mem _ hx),
      List.reverse_cons, List.append_assoc, List.singleton_append, Cursor.advanceBy_succ]

/-- An escape is decoded in one step of fuel. -/
theorem stringBody_escape {ds : List UInt8} (h : c.rest = 92 :: more)
    (he : outcome escape c.advance = (.ok ds, c')) :
    outcome (stringBody (fuel + 1) acc) c = outcome (stringBody fuel (ds.reverse ++ acc)) c' := by
  rw [stringBody, outcome_bind_ok (outcome_peek c), h]
  simp only [List.head?_cons, if_neg (show (92 : UInt8) ≠ 34 by decide), if_true]
  rw [outcome_bind_ok (outcome_eat _), outcome_bind_ok he]

/-- At the closing quote, the bytes gathered are the answer, if they are UTF-8. -/
theorem stringBody_close (h : c.rest = 34 :: more) {cs : List Char} (hd : Text.decodeUtf8 acc.reverse = some cs) :
    outcome (stringBody (fuel + 1) acc) c = (.ok acc.reverse, c.advance) := by
  rw [stringBody, outcome_bind_ok (outcome_peek c), h]
  simp only [List.head?_cons, if_true, hd]
  rw [outcome_bind_ok (outcome_eat _)]
  rfl

theorem outcome_stringByte {x : UInt8} (h : c.rest = x :: more) :
    outcome stringByte c = (.ok x, c.advance) := by
  rw [stringByte, outcome_bind_ok (outcome_next c), h]
  rfl

/-- Hexadecimal digits are read as the number they spell, after the value so far. -/
theorem outcome_hexDigits {bs : List UInt8} {vs : List Nat} (hv : bs.map hexByteValue = vs.map some)
    (h : c.rest = bs ++ more) (acc : Nat) :
    outcome (hexEscape.digits bs.length acc) c = (.ok (vs.foldl (fun a v => a * 16 + v) acc), c.advanceBy bs.length) := by
  induction bs generalizing vs c acc with
  | nil =>
    cases vs with
    | nil => rfl
    | cons v vs => simp at hv
  | cons b bs ih =>
    cases vs with
    | nil => simp at hv
    | cons v vs =>
      simp only [List.map_cons, List.cons.injEq] at hv
      have hnext : c.advance.rest = bs ++ more := by rw [Cursor.advance_rest, h]; rfl
      rw [List.length_cons, hexEscape.digits, outcome_bind_ok (outcome_next c), h, List.cons_append,
        List.head?_cons]
      simp only [hv.1]
      rw [ih hv.2 hnext, List.foldl_cons, Cursor.advanceBy_succ]

/-- The digits of a character's value, as `hex2` writes them, read back as the value. -/
theorem hexDigit_value : ∀ k < 16,
    (Text.utf8Bytes (if k < 10 then Char.ofNat (48 + k) else Char.ofNat (87 + k)).toNat).map hexByteValue =
      [some k] := by
  decide

theorem hex2_values (n : Nat) : (Text.encodeUtf8 (hex2 n)).map hexByteValue = [some (n / 16 % 16), some (n % 16)] := by
  rw [hex2, Text.encodeUtf8, String.toList_ofList, List.flatMap_cons, List.flatMap_cons, List.flatMap_nil,
    List.append_nil, List.map_append, hexDigit_value _ (Nat.mod_lt _ (by decide)),
    hexDigit_value _ (Nat.mod_lt _ (by decide))]
  rfl

theorem escapeChar_control {ch : Char} (h32 : ch.toNat < 0x20) (h8 : ch.toNat ≠ 8) (h9 : ch.toNat ≠ 9)
    (h10 : ch.toNat ≠ 10) (h12 : ch.toNat ≠ 12) (h13 : ch.toNat ≠ 13) :
    escapeChar ch = "\\u00" ++ hex2 ch.toNat := by
  have hq : ch ≠ '"' := by rintro rfl; simp at h32
  have hb : ch ≠ '\\' := by rintro rfl; simp at h32
  have hn : ch ≠ '\n' := by rintro rfl; simp at h10
  have hr : ch ≠ '\r' := by rintro rfl; simp at h13
  have ht : ch ≠ '\t' := by rintro rfl; simp at h9
  unfold escapeChar
  split
  -- the characters with short escapes of their own are ruled out
  · exact absurd rfl hq
  · exact absurd rfl hb
  · exact absurd rfl hn
  · exact absurd rfl hr
  · exact absurd rfl ht
  · simp [h8, h12, h32]

theorem escapeChar_plain {ch : Char} (h32 : ¬ ch.toNat < 0x20) (hq : ch ≠ '"') (hb : ch ≠ '\\') :
    escapeChar ch = ch.toString := by
  have hn : ch ≠ '\n' := by rintro rfl; simp at h32
  have hr : ch ≠ '\r' := by rintro rfl; simp at h32
  have ht : ch ≠ '\t' := by rintro rfl; simp at h32
  unfold escapeChar
  split
  -- the characters with short escapes of their own are ruled out
  · exact absurd rfl hq
  · exact absurd rfl hb
  · exact absurd rfl hn
  · exact absurd rfl hr
  · exact absurd rfl ht
  · rw [if_neg (by omega), if_neg (by omega), if_neg h32]

/-- Four hexadecimal digits are read as the number they spell. -/
theorem outcome_hexEscape {bs : List UInt8} {v₁ v₂ v₃ v₄ : Nat}
    (hv : bs.map hexByteValue = [some v₁, some v₂, some v₃, some v₄]) (h : c.rest = bs ++ more) :
    outcome hexEscape c = (.ok (((v₁ * 16 + v₂) * 16 + v₃) * 16 + v₄), c.advanceBy 4) := by
  have hlen : bs.length = 4 := by simpa using congrArg List.length hv
  have hdigits : outcome (hexEscape.digits bs.length 0) c =
      (.ok ([v₁, v₂, v₃, v₄].foldl (fun a v => a * 16 + v) 0), c.advanceBy bs.length) :=
    outcome_hexDigits hv h 0
  rw [hexEscape, outcome_bind_ok (outcome_get c), h, List.length_append, hlen]
  simp only [show ¬ (4 + more.length < 4) by omega, if_false]
  rw [← hlen, hdigits, hlen]
  simp

/-- A `\u` escape of a character below the surrogates is read as that character's bytes. -/
theorem outcome_unicodeEscape {bs : List UInt8} {v₁ v₂ v₃ v₄ : Nat}
    (hv : bs.map hexByteValue = [some v₁, some v₂, some v₃, some v₄]) (h : c.rest = bs ++ more)
    (hn : ((v₁ * 16 + v₂) * 16 + v₃) * 16 + v₄ < 0xD800) :
    outcome unicodeEscape c = (.ok (Text.utf8Bytes (((v₁ * 16 + v₂) * 16 + v₃) * 16 + v₄)), c.advanceBy 4) := by
  rw [unicodeEscape, outcome_bind_ok (outcome_hexEscape hv h)]
  simp only [show ¬ (0xDC00 ≤ ((v₁ * 16 + v₂) * 16 + v₃) * 16 + v₄ ∧ ((v₁ * 16 + v₂) * 16 + v₃) * 16 + v₄ ≤ 0xDFFF) by
    omega, if_false, show ((v₁ * 16 + v₂) * 16 + v₃) * 16 + v₄ < 0xD800 ∨ _ from .inl hn, if_true]
  rfl

/-- The short escapes: a backslash and one byte that names a quote, a backslash or a
control character. -/
theorem outcome_escape_short {x d : UInt8} (hc : c.rest = x :: more)
    (hx : x = 34 ∧ d = 34 ∨ x = 92 ∧ d = 92 ∨ x = 98 ∧ d = 8 ∨ x = 102 ∧ d = 12 ∨ x = 110 ∧ d = 10 ∨
      x = 114 ∧ d = 13 ∨ x = 116 ∧ d = 9) :
    outcome escape c = (.ok [d], c.advance) := by
  rw [escape, outcome_bind_ok (outcome_stringByte hc)]
  rcases hx with ⟨rfl, rfl⟩ | ⟨rfl, rfl⟩ | ⟨rfl, rfl⟩ | ⟨rfl, rfl⟩ | ⟨rfl, rfl⟩ | ⟨rfl, rfl⟩ | ⟨rfl, rfl⟩ <;> rfl

theorem plain_of_toNat {b : UInt8} (h34 : b.toNat ≠ 34) (h92 : b.toNat ≠ 92) (h32 : 32 ≤ b.toNat) : Plain b :=
  ⟨fun h => h34 (by rw [h]; rfl), fun h => h92 (by rw [h]; rfl),
    fun h => by rw [UInt8.lt_iff_toNat_lt] at h; exact absurd h (by simpa using h32)⟩

/-- Every byte of a character that is written as it is stays plain: an ASCII one is neither
quote nor backslash nor control, and the bytes of any other are all at least 0x80. -/
theorem utf8Bytes_plain {n : Nat} (h32 : 32 ≤ n) (h34 : n ≠ 34) (h92 : n ≠ 92) (hmax : n < 0x110000) :
    ∀ b ∈ Text.utf8Bytes n, Plain b := by
  intro b hb
  unfold Text.utf8Bytes at hb
  split at hb
  · rw [List.mem_singleton] at hb
    subst hb
    exact plain_of_toNat (by simp; omega) (by simp; omega) (by simp; omega)
  have high : ∀ k, 128 ≤ k % 256 → Plain k.toUInt8 := fun k hk =>
    plain_of_toNat (by simp; omega) (by simp; omega) (by simp; omega)
  split at hb
  · simp only [List.mem_cons, List.not_mem_nil, or_false] at hb
    rcases hb with rfl | rfl <;> exact high _ (by omega)
  split at hb
  · simp only [List.mem_cons, List.not_mem_nil, or_false] at hb
    rcases hb with rfl | rfl | rfl <;> exact high _ (by omega)
  · simp only [List.mem_cons, List.not_mem_nil, or_false] at hb
    rcases hb with rfl | rfl | rfl | rfl <;> exact high _ (by omega)

/-- How a character is written inside a string: a backslash and one byte for a quote, a backslash
and the five control characters that have a short escape; `\u00` and two hexadecimal digits for
the other control characters; and its own bytes for any other character, none of which ends or
escapes the string. -/
theorem escapeChar_cases (ch : Char) :
    (∃ x d : UInt8, Text.encodeUtf8 (escapeChar ch) = [92, x] ∧ Text.utf8Bytes ch.toNat = [d] ∧
      (x = 34 ∧ d = 34 ∨ x = 92 ∧ d = 92 ∨ x = 98 ∧ d = 8 ∨ x = 102 ∧ d = 12 ∨ x = 110 ∧ d = 10 ∨
        x = 114 ∧ d = 13 ∨ x = 116 ∧ d = 9)) ∨
    (∃ hexs : List UInt8, Text.encodeUtf8 (escapeChar ch) = 92 :: 117 :: hexs ∧
      hexs.map hexByteValue = [some 0, some 0, some (ch.toNat / 16 % 16), some (ch.toNat % 16)] ∧
      ch.toNat < 0x20) ∨
    (Text.encodeUtf8 (escapeChar ch) = Text.utf8Bytes ch.toNat ∧ ∀ b ∈ Text.utf8Bytes ch.toNat, Plain b) := by
  have hvalid := Text.toNat_isValid ch
  by_cases hq : ch = '"'
  · subst hq
    exact .inl ⟨34, 34, by decide, by decide, by simp⟩
  by_cases hb : ch = '\\'
  · subst hb
    exact .inl ⟨92, 92, by decide, by decide, by simp⟩
  by_cases h32 : ch.toNat < 0x20
  · -- a control character: five have a short escape, the others are written as `\u00` and two digits
    have hof : ∀ n, ch.toNat = n → ch = Char.ofNat n := fun n hn => by rw [← hn, Char.ofNat_toNat]
    by_cases h8 : ch.toNat = 8
    · obtain rfl := hof 8 h8
      exact .inl ⟨98, 8, by decide, by decide, by simp⟩
    by_cases h9 : ch.toNat = 9
    · obtain rfl := hof 9 h9
      exact .inl ⟨116, 9, by decide, by decide, by simp⟩
    by_cases h10 : ch.toNat = 10
    · obtain rfl := hof 10 h10
      exact .inl ⟨110, 10, by decide, by decide, by simp⟩
    by_cases h12 : ch.toNat = 12
    · obtain rfl := hof 12 h12
      exact .inl ⟨102, 12, by decide, by decide, by simp⟩
    by_cases h13 : ch.toNat = 13
    · obtain rfl := hof 13 h13
      exact .inl ⟨114, 13, by decide, by decide, by simp⟩
    refine .inr (.inl ⟨[48, 48] ++ Text.encodeUtf8 (hex2 ch.toNat), ?_, ?_, h32⟩)
    · rw [escapeChar_control h32 h8 h9 h10 h12 h13, Text.encodeUtf8_append]
      rfl
    · rw [List.map_append, hex2_values]
      rfl
  · -- any other character is written as it is
    refine .inr (.inr ⟨?_, utf8Bytes_plain (by omega) (fun h => hq (by rw [← Char.ofNat_toNat ch, h]))
      (fun h => hb (by rw [← Char.ofNat_toNat ch, h])) (by omega)⟩)
    rw [escapeChar_plain h32 hq hb]
    simp [Text.encodeUtf8]

/-- The bytes of a character read back inside a string, in at most as many steps as bytes. -/
theorem stringBody_escapeChar (ch : Char) (h : c.rest = Text.encodeUtf8 (escapeChar ch) ++ more) :
    ∃ k ≤ (Text.encodeUtf8 (escapeChar ch)).length, ∀ fuel acc,
      outcome (stringBody (fuel + k) acc) c =
        outcome (stringBody fuel ((Text.utf8Bytes ch.toNat).reverse ++ acc))
          (c.advanceBy (Text.encodeUtf8 (escapeChar ch)).length) := by
  rcases escapeChar_cases ch with ⟨x, d, hbytes, hd, hx⟩ | ⟨hexs, hesc, hdigits, h32⟩ | ⟨hbytes, hplain⟩
  · -- a short escape is a backslash and one byte, read in one step
    rw [hbytes, List.cons_append, List.cons_append, List.nil_append] at h
    refine ⟨1, by simp [hbytes], fun fuel acc => ?_⟩
    rw [hbytes, hd]
    exact stringBody_escape h (outcome_escape_short (show c.advance.rest = x :: more by
      rw [Cursor.advance_rest, h]; rfl) hx)
  · -- `\u00` and two digits, read as one escape
    have hvalue : ((0 * 16 + 0) * 16 + ch.toNat / 16 % 16) * 16 + ch.toNat % 16 = ch.toNat := by omega
    have hu : outcome unicodeEscape c.advance.advance =
        (.ok (Text.utf8Bytes ch.toNat), (c.advance.advance).advanceBy 4) := by
      have hrest : c.advance.advance.rest = hexs ++ more := by
        rw [Cursor.advance_rest, Cursor.advance_rest, h, hesc]
        rfl
      rw [← hvalue]
      exact outcome_unicodeEscape hdigits hrest (by omega)
    refine ⟨1, by simp [hesc], fun fuel acc => ?_⟩
    have hlen : (Text.encodeUtf8 (escapeChar ch)).length = 2 + 4 := by
      rw [hesc, List.length_cons, List.length_cons, ← List.length_map (f := hexByteValue), hdigits]
      rfl
    rw [hlen, Cursor.advanceBy_add]
    refine stringBody_escape (by rw [h, hesc]; rfl) ?_
    rw [escape, outcome_bind_ok (outcome_stringByte (by rw [Cursor.advance_rest, h, hesc]; rfl))]
    exact hu
  · -- any other character is written as it is
    refine ⟨(Text.utf8Bytes ch.toNat).length, by rw [hbytes], fun fuel acc => ?_⟩
    rw [hbytes] at h ⊢
    exact stringBody_plains h hplain

/-- The bytes of escaped characters read back up to the closing quote, whatever fuel is left
beyond their count, as the bytes of the characters. -/
theorem stringBody_escaped (cs : List Char) {cs₀ : List Char}
    (h : c.rest = cs.flatMap (fun ch => Text.encodeUtf8 (escapeChar ch)) ++ 34 :: more)
    (hd : Text.decodeUtf8 (acc.reverse ++ cs.flatMap (fun ch => Text.utf8Bytes ch.toNat)) = some cs₀)
    (hfuel : (cs.flatMap fun ch => Text.encodeUtf8 (escapeChar ch)).length < fuel) :
    outcome (stringBody fuel acc) c = (.ok (acc.reverse ++ cs.flatMap (fun ch => Text.utf8Bytes ch.toNat)),
      c.advanceBy ((cs.flatMap fun ch => Text.encodeUtf8 (escapeChar ch)).length + 1)) := by
  induction cs generalizing c acc fuel with
  | nil =>
    obtain ⟨f, rfl⟩ : ∃ f, fuel = f + 1 := ⟨fuel - 1, by simp at hfuel; omega⟩
    rw [List.flatMap_nil, List.append_nil] at hd ⊢
    exact stringBody_close h hd
  | cons ch cs ih =>
    rw [List.flatMap_cons, List.append_assoc] at h
    rw [List.flatMap_cons, List.length_append] at hfuel
    obtain ⟨k, hk, hstep⟩ := stringBody_escapeChar ch h
    have hnext := Cursor.advanceBy_append c h
    obtain ⟨f, rfl⟩ : ∃ f, fuel = f + k := ⟨fuel - k, by omega⟩
    rw [hstep, ih hnext (by rw [List.reverse_append, List.reverse_reverse, List.append_assoc]; exact hd)
      (by omega)]
    rw [List.reverse_append, List.reverse_reverse, List.append_assoc, ← Cursor.advanceBy_add,
      List.flatMap_cons, List.flatMap_cons, List.length_append, Nat.add_assoc]

/-- The bytes a text is written as between quotes. -/
theorem encodeUtf8_quote (s : String) :
    Text.encodeUtf8 (quote s) = 34 :: s.toList.flatMap (fun ch => Text.encodeUtf8 (escapeChar ch)) ++ [34] := by
  rw [quote, Text.encodeUtf8_append, Text.encodeUtf8_append, Text.encodeUtf8_join, List.flatMap_map]
  rfl

/-- The body of a written text reads back as the text, up to and including its closing quote. -/
theorem outcome_string (s : String)
    (h : c.rest = s.toList.flatMap (fun ch => Text.encodeUtf8 (escapeChar ch)) ++ 34 :: more) :
    outcome string c = (.ok s, c.advanceBy ((s.toList.flatMap fun ch => Text.encodeUtf8 (escapeChar ch)).length + 1)) := by
  have hd : Text.decodeUtf8 (([] : List UInt8).reverse ++ s.toList.flatMap (fun ch => Text.utf8Bytes ch.toNat)) =
      some s.toList := by
    rw [List.reverse_nil, List.nil_append, ← Text.encodeUtf8, Text.decodeUtf8_encodeUtf8]
  have hfuel : (s.toList.flatMap fun ch => Text.encodeUtf8 (escapeChar ch)).length < c.rest.length + 1 := by
    rw [h, List.length_append, List.length_cons]
    omega
  have hbody := stringBody_escaped s.toList h hd hfuel
  rw [string, outcome_bind_ok (outcome_get c), outcome_bind_ok hbody, List.reverse_nil, List.nil_append,
    ← Text.encodeUtf8, Text.decodeUtf8_encodeUtf8]
  simp

/-- A key, quote included, reads back as the text it writes. -/
theorem outcome_key (k : String) (h : c.rest = Text.encodeUtf8 (quote k) ++ more) :
    outcome key c = (.ok k, c.advanceBy (Text.encodeUtf8 (quote k)).length) := by
  rw [encodeUtf8_quote] at h ⊢
  have hrest : c.advance.rest = k.toList.flatMap (fun ch => Text.encodeUtf8 (escapeChar ch)) ++ 34 :: more := by
    rw [Cursor.advance_rest, h]
    simp
  rw [key, outcome_bind_ok (outcome_eat c), outcome_string k hrest, ← Cursor.advanceBy_one,
    ← Cursor.advanceBy_add]
  simp only [List.cons_append, List.length_cons, List.length_append, List.length_nil]
  congr 2
  omega

/-- **Texts read back.** A text written between quotes reads back as itself, always. -/
theorem readString_quote (s : String) : Reads False 0 readString (Text.encodeUtf8 (quote s)) (· = s) := by
  have hq : Text.encodeUtf8 (quote s) = 34 :: (s.toList.flatMap (fun ch => Text.encodeUtf8 (escapeChar ch)) ++ [34]) := by
    rw [encodeUtf8_quote, List.cons_append]
  rw [hq]
  refine Reads.typed (by decide) fun c more hc _ _ => .inl ⟨s, rfl, ?_⟩
  rw [← hq] at hc ⊢
  show outcome (if (34 : UInt8) = byte '"' then (do eat; string) else wrongKind "a string") c = _
  rw [if_pos (show (34 : UInt8) = byte '"' from rfl), ← key]
  exact outcome_key s hc

end Strings

/-! ## Integers -/

/-- One more decimal digit after a value. -/
def digitStep (a : Nat) (d : UInt8) : Nat := a * 10 + (d.toNat - 48)

section Integers

variable {c : Cursor} {more : List UInt8}

theorem le_foldl_digitStep (sig : Nat) (ds : List UInt8) : sig ≤ ds.foldl digitStep sig := by
  induction ds generalizing sig with
  | nil => exact Nat.le_refl _
  | cons d ds ih => exact Nat.le_trans (by unfold digitStep; omega) (ih (digitStep sig d))

/-- Digits that stay within 64 bits are all taken. -/
theorem accumulate_of_le (sig : Nat) (ds : List UInt8) (h : ds.foldl digitStep sig ≤ u64Max) :
    accumulate sig ds = (ds.foldl digitStep sig, ds.length, false) := by
  induction ds generalizing sig with
  | nil => rfl
  | cons d ds ih =>
    have hstep : ¬ digitStep sig d > u64Max := by
      have := le_foldl_digitStep (digitStep sig d) ds
      rw [List.foldl_cons] at h
      omega
    rw [List.foldl_cons] at h ⊢
    rw [accumulate, ← digitStep, if_neg hstep, ih _ h]
    rfl

/-- Digits that pass 64 bits are not all taken. -/
theorem accumulate_overflow {sig : Nat} (hsig : sig ≤ u64Max) (ds : List UInt8)
    (h : u64Max < ds.foldl digitStep sig) : (accumulate sig ds).2.2 = true := by
  induction ds generalizing sig with
  | nil => exact absurd h (by rw [List.foldl_nil]; omega)
  | cons d ds ih =>
    rw [List.foldl_cons] at h
    rw [accumulate, ← digitStep]
    split
    · rfl
    · next hle => exact ih (by omega) h

/-- What follows a value in compact text is no digit and starts no fraction or exponent. -/
theorem Delimited.head {more : List UInt8} (h : Delimited more) {b : UInt8} (hb : b ∈ more.head?) :
    isDigitByte b = false ∧ b ≠ byte '.' ∧ b ≠ byte 'e' ∧ b ≠ byte 'E' := by
  rcases h b hb with rfl | rfl | rfl <;> decide

theorem takeWhile_digits {ds : List UInt8} (hds : ∀ d ∈ ds, isDigitByte d = true) (hmore : Delimited more) :
    (ds ++ more).takeWhile isDigitByte = ds := by
  induction ds with
  | nil =>
    cases more with
    | nil => rfl
    | cons b more' => rw [List.nil_append, List.takeWhile_cons, (hmore.head (by simp)).1]; rfl
  | cons d ds ih =>
    rw [List.cons_append, List.takeWhile_cons, hds d List.mem_cons_self, if_pos rfl,
      ih fun x hx => hds x (List.mem_cons_of_mem _ hx)]

/-- A number without fraction or exponent ends where its digits end. -/
theorem outcome_numberTail (positive : Bool) (sig : Nat) (h : c.rest = more) (hmore : Delimited more) :
    outcome (numberTail positive sig) c = (.ok (numberTail.finish positive sig), c) := by
  rw [numberTail, outcome_bind_ok (outcome_peek c), h]
  cases more with
  | nil => rfl
  | cons b more' =>
    obtain ⟨-, hdot, he, hE⟩ := hmore.head (show b ∈ (b :: more').head? by simp)
    simp only [List.head?_cons, if_neg hdot, he, hE, decide_false, Bool.or_false]
    rfl

/-- Decimal digits with no leading zero, within 64 bits, read as their value, which the sign
then makes a number of its kind. -/
theorem outcome_number (positive : Bool) {ds : List UInt8} (hds : ∀ d ∈ ds, isDigitByte d = true)
    (hne : ds ≠ []) (hlead : ds.head? = some 48 → ds = [48]) (hv : ds.foldl digitStep 0 ≤ u64Max)
    (h : c.rest = ds ++ more) (hmore : Delimited more) :
    outcome (number positive) c = (.ok (numberTail.finish positive (ds.foldl digitStep 0)), c.advanceBy ds.length) := by
  obtain ⟨d, rest, rfl⟩ := List.exists_cons_of_ne_nil hne
  have hnext : c.advance.rest = rest ++ more := by rw [Cursor.advance_rest, h]; rfl
  rw [number, outcome_bind_ok (outcome_next c), h, List.cons_append, List.head?_cons]
  dsimp only
  by_cases h0 : d = byte '0'
  · -- a lone zero
    obtain rfl : rest = [] := by
      have := hlead (by rw [h0]; rfl)
      simp only [List.cons.injEq] at this
      exact this.2
    rw [if_pos h0, outcome_bind_ok (outcome_peek _), hnext, List.nil_append]
    have htail : outcome (numberTail positive 0) c.advance = (.ok (numberTail.finish positive 0), c.advance) :=
      outcome_numberTail positive 0 (by rw [hnext, List.nil_append]) hmore
    have hzero : [d].foldl digitStep 0 = 0 := by rw [h0]; rfl
    rw [hzero]
    cases more with
    | nil => exact htail
    | cons b more' =>
      rw [List.head?_cons]
      dsimp only
      rw [if_neg (by rw [(hmore.head (show b ∈ (b :: more').head? by simp)).1]; decide)]
      exact htail
  · -- a nonzero first digit, and the digits after it
    rw [if_neg h0, if_pos (hds d List.mem_cons_self), outcome_bind_ok (outcome_frontDigits _), hnext,
      takeWhile_digits (fun x hx => hds x (List.mem_cons_of_mem _ hx)) hmore]
    rw [List.foldl_cons] at hv ⊢
    have hacc := accumulate_of_le (d.toNat - 48) rest (by rwa [show digitStep 0 d = d.toNat - 48 by
      unfold digitStep; omega] at hv)
    rw [show digitStep 0 d = d.toNat - 48 by unfold digitStep; omega]
    simp only [hacc]
    rw [outcome_bind_ok (outcome_eatN _ _)]
    simp only [Bool.false_eq_true, if_false]
    rw [outcome_numberTail positive _ (Cursor.advanceBy_append _ hnext) hmore, List.length_cons,
      Cursor.advanceBy_succ]

/-- More than 64 bits of digits are read as a binary64 value, if at all. -/
theorem outcome_number_overflow (positive : Bool) {ds : List UInt8} (hds : ∀ d ∈ ds, isDigitByte d = true)
    (hlead : ds.head? = some 48 → ds = [48]) (hv : u64Max < ds.foldl digitStep 0)
    (h : c.rest = ds ++ more) (hmore : Delimited more) :
    (∃ e c', outcome (number positive) c = (.error e, c')) ∨
      ∃ v c', outcome (number positive) c = (.ok (.float v), c') := by
  -- every way on from the digits is a binary64 value
  have hfloat : ∀ (r : Reader Binary64) (c' : Cursor), (∃ e c'', outcome (Number.float <$> r) c' = (.error e, c'')) ∨
      ∃ v c'', outcome (Number.float <$> r) c' = (.ok (.float v), c'') := fun r c' => by
    rcases outcome_cases r c' with ⟨v, c'', hr⟩ | ⟨e, c'', hr⟩
    · exact .inr ⟨v, c'', outcome_map_ok hr _⟩
    · exact .inl ⟨e, c'', outcome_map_error hr _⟩
  cases ds with
  | nil => exact absurd hv (by simp [u64Max])
  | cons d rest =>
    have h0 : d ≠ byte '0' := by
      intro h0
      have := hlead (by rw [h0]; rfl)
      simp only [List.cons.injEq] at this
      rw [this.2, List.foldl_cons, List.foldl_nil, h0] at hv
      exact absurd hv (by decide)
    have hnext : c.advance.rest = rest ++ more := by rw [Cursor.advance_rest, h]; rfl
    rw [List.foldl_cons, show digitStep 0 d = d.toNat - 48 by unfold digitStep; omega] at hv
    have hover := accumulate_overflow (show d.toNat - 48 ≤ u64Max by
      have := UInt8.toNat_lt d; unfold u64Max; omega) rest hv
    rw [number, outcome_bind_ok (outcome_next c), h, List.cons_append, List.head?_cons]
    dsimp only
    rw [if_neg h0, if_pos (hds d List.mem_cons_self), outcome_bind_ok (outcome_frontDigits _), hnext,
      takeWhile_digits (fun x hx => hds x (List.mem_cons_of_mem _ hx)) hmore]
    generalize accumulate (d.toNat - 48) rest = res at hover ⊢
    obtain ⟨sig, used, o⟩ := res
    obtain rfl : o = true := hover
    dsimp only
    rw [outcome_bind_ok (outcome_eatN _ _), if_pos rfl, outcome_bind_ok (outcome_frontDigits _),
      outcome_bind_ok (outcome_eatN _ _), outcome_bind_ok (outcome_peek _)]
    split
    · split
      · exact hfloat _ _
      · split
        · exact hfloat _ _
        · exact hfloat _ _
    · exact hfloat _ _

/-! ### Decimal digits of a number -/

/-- Every decimal digit of a number is the digit of some value below ten. -/
theorem mem_toDigits {m : Nat} {d : Char} (h : d ∈ Nat.toDigits 10 m) : ∃ k < 10, d = Nat.digitChar k := by
  induction m using Nat.strong_induction_on with
  | _ m ih =>
    rw [Nat.toDigits_eq_if (by decide)] at h
    split at h
    · next hm => exact ⟨m, hm, List.mem_singleton.mp h⟩
    · rcases List.mem_append.mp h with h | h
      · exact ih (m / 10) (by omega) h
      · exact ⟨m % 10, Nat.mod_lt _ (by decide), List.mem_singleton.mp h⟩

/-- The byte of the digit of a value below ten. -/
theorem digitChar_byte {k : Nat} (hk : k < 10) : (Nat.digitChar k).toNat.toUInt8 = (48 + k).toUInt8 := by
  rw [Nat.toNat_digitChar_of_lt_ten hk]

/-- The bytes of a number written in decimal. -/
theorem encodeUtf8_repr (m : Nat) :
    Text.encodeUtf8 m.repr = (Nat.toDigits 10 m).map fun d => d.toNat.toUInt8 := by
  rw [Text.encodeUtf8, Nat.toList_repr]
  have hdig : ∀ d ∈ Nat.toDigits 10 m, ∃ k < 10, d = Nat.digitChar k := fun d hd => mem_toDigits hd
  generalize Nat.toDigits 10 m = l at hdig ⊢
  induction l with
  | nil => rfl
  | cons d l ih =>
    obtain ⟨k, hk, rfl⟩ := hdig _ List.mem_cons_self
    rw [List.flatMap_cons, List.map_cons, ih fun x hx => hdig x (List.mem_cons_of_mem _ hx), Text.utf8Bytes,
      if_pos (by rw [Nat.toNat_digitChar_of_lt_ten hk]; omega)]
    rfl

theorem isDigitByte_repr (m : Nat) : ∀ b ∈ Text.encodeUtf8 m.repr, isDigitByte b = true := by
  rw [encodeUtf8_repr]
  intro b hb
  obtain ⟨d, hd, rfl⟩ := List.mem_map.mp hb
  obtain ⟨k, hk, rfl⟩ := mem_toDigits hd
  rw [digitChar_byte hk]
  simp only [isDigitByte, Bool.and_eq_true, decide_eq_true_eq, UInt8.le_iff_toNat_le, Text.toNat_toUInt8]
  constructor <;> simp <;> omega

/-- The digits of a number read back as the number. -/
theorem foldl_digitStep_toDigits (m : Nat) :
    ((Nat.toDigits 10 m).map fun d => d.toNat.toUInt8).foldl digitStep 0 = m := by
  induction m using Nat.strong_induction_on with
  | _ m ih =>
    rw [Nat.toDigits_eq_if (by decide)]
    split
    · next hm =>
      rw [List.map_singleton, List.foldl_cons, List.foldl_nil, digitChar_byte hm, digitStep,
        Text.toNat_toUInt8]
      omega
    · next hm =>
      rw [List.map_append, List.foldl_append, ih (m / 10) (by omega), List.map_singleton, List.foldl_cons,
        List.foldl_nil, digitChar_byte (Nat.mod_lt _ (by decide)), digitStep, Text.toNat_toUInt8]
      omega

theorem foldl_digitStep_repr (m : Nat) : (Text.encodeUtf8 m.repr).foldl digitStep 0 = m := by
  rw [encodeUtf8_repr, foldl_digitStep_toDigits]

/-- Decimal digits are never empty. -/
theorem encodeUtf8_repr_ne_nil (m : Nat) : Text.encodeUtf8 m.repr ≠ [] := by
  rw [encodeUtf8_repr]
  simp

/-- A number's text starts with a digit. -/
theorem encodeUtf8_repr_cons (m : Nat) : ∃ b bs, Text.encodeUtf8 m.repr = b :: bs ∧ isDigitByte b = true := by
  obtain ⟨b, bs, hbs⟩ := List.exists_cons_of_ne_nil (encodeUtf8_repr_ne_nil m)
  exact ⟨b, bs, hbs, isDigitByte_repr m b (by rw [hbs]; exact List.mem_cons_self)⟩

/-- A number is written without leading zeros: only zero starts with the digit zero. -/
theorem repr_head (m : Nat) : (Text.encodeUtf8 m.repr).head? = some 48 → Text.encodeUtf8 m.repr = [48] := by
  rw [encodeUtf8_repr]
  induction m using Nat.strong_induction_on with
  | _ m ih =>
    rw [Nat.toDigits_eq_if (by decide)]
    split
    · next hm =>
      intro h0
      rw [List.map_singleton, List.head?_singleton, digitChar_byte hm, Option.some.injEq] at h0
      have h48 : (48 + m) % 256 = 48 := by simpa using congrArg UInt8.toNat h0
      obtain rfl : m = 0 := by omega
      rfl
    · next hm =>
      intro h0
      -- the leading digit is that of `m / 10`, which is no zero
      obtain ⟨x, xs, hx⟩ := List.exists_cons_of_ne_nil
        (show (Nat.toDigits 10 (m / 10)).map (fun d => d.toNat.toUInt8) ≠ [] by simp)
      rw [List.map_append, hx, List.cons_append, List.head?_cons] at h0
      have hlead : ((Nat.toDigits 10 (m / 10)).map fun d => d.toNat.toUInt8).head? = some 48 := by
        rw [hx, List.head?_cons]
        exact h0
      have hzero := congrArg (List.foldl digitStep 0) (ih (m / 10) (by omega) hlead)
      rw [foldl_digitStep_toDigits, show [(48 : UInt8)].foldl digitStep 0 = 0 from rfl] at hzero
      omega

theorem isBlankByte_of_isDigitByte {b : UInt8} (h : isDigitByte b = true) : isBlankByte b = false := by
  unfold isBlankByte
  simp only [Bool.or_eq_false_iff, decide_eq_false_iff_not]
  refine ⟨⟨⟨?_, ?_⟩, ?_⟩, ?_⟩ <;> (rintro rfl; exact absurd h (by decide))

/-- Decimal digits within 64 bits read as their value. -/
theorem outcome_number_repr (positive : Bool) {m : Nat} (hm : m ≤ u64Max)
    (h : c.rest = Text.encodeUtf8 m.repr ++ more) (hmore : Delimited more) :
    outcome (number positive) c =
      (.ok (numberTail.finish positive m), c.advanceBy (Text.encodeUtf8 m.repr).length) := by
  have hrun := outcome_number positive (isDigitByte_repr m) (encodeUtf8_repr_ne_nil m) (repr_head m)
    (by rw [foldl_digitStep_repr]; exact hm) h hmore
  rwa [foldl_digitStep_repr] at hrun

theorem encodeUtf8_toString_ofNat (m : Nat) : Text.encodeUtf8 (toString (Int.ofNat m)) = Text.encodeUtf8 m.repr :=
  rfl

theorem encodeUtf8_toString_negSucc (k : Nat) :
    Text.encodeUtf8 (toString (Int.negSucc k)) = 45 :: Text.encodeUtf8 (k + 1).repr := by
  show Text.encodeUtf8 ("-" ++ (k + 1).repr) = _
  rw [Text.encodeUtf8_append]
  rfl

/-- **Integers read back.** An integer written in decimal reads back as itself when it fits 64
signed bits, and fails otherwise. -/
theorem readI64_toString (n : Int) :
    Reads (¬ (-9223372036854775808 ≤ n ∧ n ≤ 9223372036854775807)) 0 readI64 (Text.encodeUtf8 (toString n))
      (· = n) := by
  -- the digits of the magnitude, and what the number reader makes of them
  have digits : ∀ (positive : Bool) (m : Nat) (c : Cursor) (more : List UInt8),
      c.rest = Text.encodeUtf8 m.repr ++ more → Delimited more →
      (m ≤ u64Max ∧ outcome (number positive) c =
        (.ok (numberTail.finish positive m), c.advanceBy (Text.encodeUtf8 m.repr).length)) ∨
      (u64Max < m ∧ ((∃ e c', outcome (number positive) c = (.error e, c')) ∨
        ∃ v c', outcome (number positive) c = (.ok (.float v), c'))) := by
    intro positive m c more hc hmore
    by_cases hm : m ≤ u64Max
    · exact .inl ⟨hm, outcome_number_repr positive hm hc hmore⟩
    · exact .inr ⟨by omega, outcome_number_overflow positive (isDigitByte_repr m) (repr_head m)
        (by rw [foldl_digitStep_repr]; omega) hc hmore⟩
  unfold readI64 readNumberAs
  cases n with
  | ofNat m =>
    obtain ⟨b, bs, hbs, hb⟩ := encodeUtf8_repr_cons m
    rw [encodeUtf8_toString_ofNat, hbs]
    refine Reads.typed (isBlankByte_of_isDigitByte hb) ?_
    intro c more hc hmore _
    rw [if_neg (by rintro rfl; revert hb; decide), if_pos hb]
    rw [← hbs] at hc ⊢
    rcases digits true m c more hc hmore with ⟨hm, hrun⟩ | ⟨hm, ⟨e, c', hrun⟩ | ⟨v, c', hrun⟩⟩
    · rw [outcome_bind_ok hrun]
      simp only [numberTail.finish, if_true]
      by_cases hi : m ≤ 9223372036854775807
      · refine .inl ⟨m, rfl, ?_⟩
        rw [if_pos hi]
        rfl
      · refine .inr ⟨by rw [Int.ofNat_eq_natCast]; omega, ?_⟩
        rw [if_neg hi]
        exact ⟨_, _, rfl⟩
    · exact .inr ⟨by unfold u64Max at hm; rw [Int.ofNat_eq_natCast]; omega, _, _, outcome_bind_error hrun _⟩
    · exact .inr ⟨by unfold u64Max at hm; rw [Int.ofNat_eq_natCast]; omega, _, _, by rw [outcome_bind_ok hrun]; rfl⟩
  | negSucc k =>
    rw [encodeUtf8_toString_negSucc]
    refine Reads.typed (by decide) ?_
    intro c more hc hmore _
    rw [if_pos (show (45 : UInt8) = byte '-' from rfl), outcome_bind_ok (outcome_eat c)]
    have hnext : c.advance.rest = Text.encodeUtf8 (k + 1).repr ++ more := by
      rw [Cursor.advance_rest, hc]
      rfl
    have hlen : (45 :: Text.encodeUtf8 (k + 1).repr).length = 1 + (Text.encodeUtf8 (k + 1).repr).length := by
      rw [List.length_cons, Nat.add_comm]
    rcases digits false (k + 1) c.advance more hnext hmore with ⟨hm, hrun⟩ | ⟨hm, ⟨e, c', hrun⟩ | ⟨v, c', hrun⟩⟩
    · rw [outcome_bind_ok hrun]
      simp only [numberTail.finish, Bool.false_eq_true, if_false]
      by_cases hi : k + 1 ≤ 9223372036854775808
      · refine .inl ⟨-((k + 1 : Nat) : Int), by omega, ?_⟩
        rw [if_pos ⟨by omega, hi⟩, hlen, Cursor.advanceBy_add, Cursor.advanceBy_one]
        rfl
      · refine .inr ⟨by omega, ?_⟩
        rw [if_neg (by omega)]
        exact ⟨_, _, rfl⟩
    · exact .inr ⟨by unfold u64Max at hm; omega, _, _, outcome_bind_error hrun _⟩
    · exact .inr ⟨by unfold u64Max at hm; omega, _, _, by rw [outcome_bind_ok hrun]; rfl⟩

end Integers

end Json

end Warden
