import Warden.Proofs.Utf8
import Warden.Text.Base64

/-!
# URL-safe base64 read back

The encoding that the decoder of `Warden.Text.Base64` undoes: three bytes to four symbols of the
URL-safe alphabet, and a last group of one or two bytes to two or three symbols whose unused low
bits are zero, with no padding. The decoder reads every encoding back (`decodeBase64Url_encode`),
and no encoding holds a dot, so an encoding can stand between the dots of a token.

## One layer of the decoder at a time

The decoder splits its input into whole quads and a last group of two to four symbols. The proof
splits the bytes the same way, into whole groups of three and a last group of one to three
(`lastGroup`), and follows each layer: the symbols read back as their values
(`base64Values_symbols`, `suffixValues_symbols`), the quads give back their three bytes each
(`flatMap_groups`, by induction over the groups), and the last group gives back its bytes with no
stray bits.
-/

namespace Warden

/-- A decoder that has answered goes on with its answer. -/
@[simp] theorem except_ok_bind {ε α β : Type} (a : α) (f : α → Except ε β) : (Except.ok a >>= f) = f a := rfl

namespace Text

/-! ## The encoding -/

/-- The symbol of a six-bit value in the URL-safe alphabet. -/
def base64Symbol (v : Nat) : UInt8 :=
  if v < 26 then (65 + v).toUInt8
  else if v < 52 then (71 + v).toUInt8
  else if v < 62 then (v - 4).toUInt8
  else if v = 62 then 45
  else 95

/-- The six-bit values that encode bytes: three bytes to four values, and a last group of one or
two bytes to two or three values, the bits past its last byte zero. -/
def base64Digits : List UInt8 → List Nat
  | b₀ :: b₁ :: b₂ :: rest =>
    [b₀.toNat / 4, b₀.toNat % 4 * 16 + b₁.toNat / 16, b₁.toNat % 16 * 4 + b₂.toNat / 64, b₂.toNat % 64] ++
      base64Digits rest
  | [b₀, b₁] => [b₀.toNat / 4, b₀.toNat % 4 * 16 + b₁.toNat / 16, b₁.toNat % 16 * 4]
  | [b₀] => [b₀.toNat / 4, b₀.toNat % 4 * 16]
  | [] => []

/-- URL-safe base64 without padding. -/
def encodeBase64Url (bytes : List UInt8) : String :=
  String.ofList ((base64Digits bytes).map fun v => Char.ofNat (base64Symbol v).toNat)

/-! ## The alphabet -/

theorem toNat_base64Symbol {v : Nat} (hv : v < 64) :
    (base64Symbol v).toNat =
      if v < 26 then 65 + v else if v < 52 then 71 + v else if v < 62 then v - 4 else if v = 62 then 45 else 95 := by
  unfold base64Symbol
  split_ifs <;> simp <;> omega

theorem base64Value_symbol {v : Nat} (hv : v < 64) : base64Value (base64Symbol v) = some v := by
  have hn := toNat_base64Symbol hv
  unfold base64Value
  dsimp only
  -- one case for each range of values: capitals, small letters, digits, then `-` and `_`
  rcases (show v < 26 ∨ 26 ≤ v ∧ v < 52 ∨ 52 ≤ v ∧ v < 62 ∨ v = 62 ∨ v = 63 by omega) with h | h | h | rfl | rfl
  · rw [if_pos h] at hn
    rw [hn, if_pos (by omega), Option.some.injEq]
    omega
  · rw [if_neg (by omega), if_pos h.2] at hn
    rw [hn, if_neg (by omega), if_pos (by omega), Option.some.injEq]
    omega
  · rw [if_neg (by omega), if_neg (by omega), if_pos h.2] at hn
    rw [hn, if_neg (by omega), if_neg (by omega), if_pos (by omega), Option.some.injEq]
    omega
  · rfl
  · rfl

theorem base64Symbol_ne_pad {v : Nat} (hv : v < 64) : base64Symbol v ≠ padByte := by
  intro h
  have := base64Value_symbol hv
  rw [h] at this
  cases this

theorem base64Symbol_lt {v : Nat} (hv : v < 64) : (base64Symbol v).toNat < 0x80 := by
  rw [toNat_base64Symbol hv]
  split_ifs <;> omega

/-- A symbol is never a dot. -/
theorem base64Symbol_ne_dot {v : Nat} (hv : v < 64) : (base64Symbol v).toNat ≠ 46 := by
  rw [toNat_base64Symbol hv]
  split_ifs <;> omega

theorem base64Digits_lt (bs : List UInt8) : ∀ v ∈ base64Digits bs, v < 64 := by
  induction bs using base64Digits.induct with
  | case1 b₀ b₁ b₂ rest ih =>
    have := b₀.toNat_lt; have := b₁.toNat_lt; have := b₂.toNat_lt
    intro v hv
    rw [base64Digits, List.mem_append] at hv
    rcases hv with hv | hv
    · simp only [List.mem_cons, List.not_mem_nil, or_false] at hv
      rcases hv with rfl | rfl | rfl | rfl <;> omega
    · exact ih v hv
  | case2 b₀ b₁ =>
    have := b₀.toNat_lt; have := b₁.toNat_lt
    intro v hv
    simp only [base64Digits, List.mem_cons, List.not_mem_nil, or_false] at hv
    rcases hv with rfl | rfl | rfl <;> omega
  | case3 b₀ =>
    have := b₀.toNat_lt
    intro v hv
    simp only [base64Digits, List.mem_cons, List.not_mem_nil, or_false] at hv
    rcases hv with rfl | rfl <;> omega
  | case4 => simp [base64Digits]

/-- The bytes of an encoding are its symbols. -/
theorem encodeBase64Url_bytes (bytes : List UInt8) :
    (String.toUTF8 (encodeBase64Url bytes)).toList = (base64Digits bytes).map base64Symbol := by
  rw [toUTF8_toList, encodeUtf8, encodeBase64Url, String.toList_ofList, List.flatMap_map]
  have hlt := base64Digits_lt bytes
  generalize base64Digits bytes = vs at hlt ⊢
  induction vs with
  | nil => rfl
  | cons v vs ih =>
    have hs := base64Symbol_lt (hlt v List.mem_cons_self)
    have hch : (Char.ofNat (base64Symbol v).toNat).toNat = (base64Symbol v).toNat := by
      unfold Char.ofNat
      rw [dif_pos (show (base64Symbol v).toNat.isValidChar from Or.inl (by omega))]
      rfl
    rw [List.flatMap_cons, List.map_cons, ih fun x hx => hlt x (List.mem_cons_of_mem _ hx), hch, utf8Bytes,
      if_pos hs, List.singleton_append]
    exact congrArg (· :: _) UInt8.ofNat_toNat

/-- An encoding holds no dot. -/
theorem dot_not_mem_encodeBase64Url (bytes : List UInt8) : '.' ∉ (encodeBase64Url bytes).toList := by
  rw [encodeBase64Url, String.toList_ofList, List.mem_map]
  rintro ⟨v, hv, hdot⟩
  have hlt := base64Digits_lt bytes v hv
  have hch : (Char.ofNat (base64Symbol v).toNat).toNat = (base64Symbol v).toNat := by
    unfold Char.ofNat
    rw [dif_pos (show (base64Symbol v).toNat.isValidChar from Or.inl (by have := base64Symbol_lt hlt; omega))]
    rfl
  exact base64Symbol_ne_dot hlt (hch.symm.trans (congrArg Char.toNat hdot))

/-! ## The decoder's layers -/

/-- Symbols read back as their values. -/
theorem base64Values_symbols (vs : List Nat) (hvs : ∀ v ∈ vs, v < 64) (i : Nat) :
    base64Values (vs.map base64Symbol) i = .ok vs := by
  induction vs generalizing i with
  | nil => rfl
  | cons v vs ih =>
    rw [List.map_cons, base64Values, base64Value_symbol (hvs v List.mem_cons_self),
      ih (fun x hx => hvs x (List.mem_cons_of_mem _ hx))]
    rfl

/-- A suffix of symbols, with no padding, reads back as its values. -/
theorem suffixValues_symbols (start : Nat) (vs : List Nat) (hvs : ∀ v ∈ vs, v < 64) (k : Nat) (acc : List Nat) :
    suffixValues start (vs.map base64Symbol) k none acc = .ok (acc.reverse ++ vs, false) := by
  induction vs generalizing k acc with
  | nil => simp [suffixValues]
  | cons v vs ih =>
    have hv := hvs v List.mem_cons_self
    rw [List.map_cons, suffixValues, if_neg (base64Symbol_ne_pad hv), base64Value_symbol hv]
    dsimp only
    rw [ih (fun x hx => hvs x (List.mem_cons_of_mem _ hx))]
    simp

/-- A whole group of four values gives back its three bytes. -/
theorem bytesOfValues_three (b₀ b₁ b₂ : UInt8) :
    bytesOfValues [b₀.toNat / 4, b₀.toNat % 4 * 16 + b₁.toNat / 16, b₁.toNat % 16 * 4 + b₂.toNat / 64,
      b₂.toNat % 64] = [b₀, b₁, b₂] := by
  have h₀ := b₀.toNat_lt
  have h₁ := b₁.toNat_lt
  have h₂ := b₂.toNat_lt
  simp only [bytesOfValues, List.foldl, List.length, List.range_succ, List.range_zero, List.nil_append,
    List.map_cons, List.map_nil, List.cons_append, ← UInt8.toNat_inj, toNat_toUInt8, List.cons.injEq, and_true]
  refine ⟨?_, ?_, ?_⟩ <;> simp <;> omega

/-- The last group of one to three bytes: its values hold its bytes, and the bits past them are
zero. -/
theorem lastGroup (last : List UInt8) (h₁ : 1 ≤ last.length) (h₃ : last.length ≤ 3) :
    2 ≤ (base64Digits last).length ∧ (base64Digits last).length ≤ 4 ∧
      bytesOfValues (base64Digits last) = last ∧
      (base64Digits last).foldl (fun acc v => acc * 64 + v) 0 %
        Nat.pow 2 (6 * (base64Digits last).length - 8 * last.length) = 0 := by
  match last, h₁, h₃ with
  | [b₀], _, _ =>
    have := b₀.toNat_lt
    simp only [base64Digits, bytesOfValues, List.foldl, List.length, List.range_succ, List.range_zero,
      List.nil_append, List.map_cons, List.map_nil, ← UInt8.toNat_inj, toNat_toUInt8, List.cons.injEq, and_true]
    refine ⟨by decide, by decide, ?_, ?_⟩ <;> simp <;> omega
  | [b₀, b₁], _, _ =>
    have := b₀.toNat_lt
    have := b₁.toNat_lt
    simp only [base64Digits, bytesOfValues, List.foldl, List.length, List.range_succ, List.range_zero,
      List.nil_append, List.map_cons, List.map_nil, List.cons_append, ← UInt8.toNat_inj, toNat_toUInt8,
      List.cons.injEq, and_true]
    refine ⟨by decide, by decide, ⟨?_, ?_⟩, ?_⟩ <;> simp <;> omega
  | [b₀, b₁, b₂], _, _ =>
    refine ⟨by simp [base64Digits], by simp [base64Digits], ?_, ?_⟩
    · rw [base64Digits, base64Digits, List.append_nil, bytesOfValues_three]
    · simp [base64Digits, Nat.mod_one]

/-! ## Whole groups -/

theorem base64Digits_append {pre : List UInt8} (k : Nat) (h : pre.length = 3 * k) (rest : List UInt8) :
    base64Digits (pre ++ rest) = base64Digits pre ++ base64Digits rest := by
  induction k generalizing pre with
  | zero =>
    obtain rfl : pre = [] := List.length_eq_zero_iff.1 (by omega)
    rfl
  | succ k ih =>
    match pre, h with
    | b₀ :: b₁ :: b₂ :: pre', h =>
      rw [List.cons_append, List.cons_append, List.cons_append, base64Digits, base64Digits,
        ih (by simp at h; omega), List.append_assoc]

theorem length_base64Digits_groups {pre : List UInt8} (k : Nat) (h : pre.length = 3 * k) :
    (base64Digits pre).length = 4 * k := by
  induction k generalizing pre with
  | zero =>
    obtain rfl : pre = [] := List.length_eq_zero_iff.1 (by omega)
    rfl
  | succ k ih =>
    match pre, h with
    | b₀ :: b₁ :: b₂ :: pre', h =>
      rw [base64Digits, List.length_append, ih (by simp at h; omega)]
      simp
      omega

/-- Whole groups of four values read back as their three bytes each. -/
theorem flatMap_groups {pre : List UInt8} (k : Nat) (h : pre.length = 3 * k) :
    (List.range k).flatMap (fun q => bytesOfValues (((base64Digits pre).drop (4 * q)).take 4)) = pre := by
  induction k generalizing pre with
  | zero =>
    obtain rfl : pre = [] := List.length_eq_zero_iff.1 (by omega)
    rfl
  | succ k ih =>
    match pre, h with
    | b₀ :: b₁ :: b₂ :: pre', h =>
      rw [List.range_succ_eq_map, List.flatMap_cons, List.flatMap_map, base64Digits]
      have hrest : ∀ q, ((([b₀.toNat / 4, b₀.toNat % 4 * 16 + b₁.toNat / 16, b₁.toNat % 16 * 4 + b₂.toNat / 64,
          b₂.toNat % 64] ++ base64Digits pre').drop (4 * q.succ)).take 4) =
          ((base64Digits pre').drop (4 * q)).take 4 := by
        intro q
        rw [Nat.mul_succ, Nat.add_comm, ← List.drop_drop]
        rfl
      simp only [hrest, ih (show pre'.length = 3 * k by simp at h; omega)]
      rw [Nat.mul_zero, List.drop_zero, List.take_append_of_le_length (by simp),
        List.take_of_length_le (by simp), bytesOfValues_three]
      rfl

/-! ## The round trip -/

/-- **Base64 round trip.** The decoder reads back the bytes of every encoding. -/
theorem decodeBase64Url_encode (bytes : List UInt8) :
    decodeBase64Url (String.toUTF8 (encodeBase64Url bytes)).toList = .ok bytes := by
  rw [encodeBase64Url_bytes]
  by_cases hnil : bytes = []
  · subst hnil
    rfl
  -- the whole groups, and the last group of one to three bytes
  obtain ⟨k, pre, last, rfl, hpre, h₁, h₃⟩ : ∃ k pre last, bytes = pre ++ last ∧ pre.length = 3 * k ∧
      1 ≤ last.length ∧ last.length ≤ 3 := by
    have : bytes.length ≠ 0 := by simpa using hnil
    refine ⟨(bytes.length - 1) / 3, bytes.take (3 * ((bytes.length - 1) / 3)),
      bytes.drop (3 * ((bytes.length - 1) / 3)), (List.take_append_drop _ _).symm, ?_, ?_, ?_⟩ <;> simp <;> omega
  obtain ⟨hm₂, hm₄, hout, hbits⟩ := lastGroup last h₁ h₃
  have hlt := base64Digits_lt (pre ++ last)
  have hP := length_base64Digits_groups k hpre
  rw [base64Digits_append k hpre] at hlt ⊢
  have hrem : (4 * k + (base64Digits last).length) % 4 ≠ 1 := by omega
  have hbody : 4 * k + (base64Digits last).length - (4 * k + (base64Digits last).length) % 4 -
      (if (4 * k + (base64Digits last).length) % 4 = 0 then 4 else 0) = 4 * k := by
    split_ifs <;> omega
  have hsyms : (List.map base64Symbol (base64Digits pre)).length = 4 * k := by rw [List.length_map, hP]
  unfold decodeBase64Url
  simp only [List.map_append, List.length_append, List.length_map, hP, if_neg hrem, hbody,
    List.take_left' hsyms, List.drop_left' hsyms,
    base64Values_symbols _ (fun v hv => hlt v (List.mem_append_left _ hv)),
    suffixValues_symbols _ _ (fun v hv => hlt v (List.mem_append_right _ hv))]
  simp only [except_ok_bind, List.reverse_nil, List.nil_append, Nat.not_lt.2 hm₂, and_false, if_false,
    Bool.false_eq_true, hout, hbits, ne_eq, not_true_eq_false, hP, Nat.mul_div_cancel_left k (by decide : 0 < 4),
    flatMap_groups k hpre]
  rfl

example : encodeBase64Url [77, 97, 110, 58] = "TWFuOg" := by decide

end Text

end Warden
