import Mathlib.Data.Nat.Basic
import Mathlib.Data.String.Basic
import Warden.Text.Utf8

/-!
# UTF-8 round trip

The bytes of a text, as the runtime lays them out, are the UTF-8 bytes of its characters one
after the other (`toUTF8_toList`), and the strict decoder gives every character back from
them (`decodeUtf8_encodeUtf8`). A reader that checks the bytes of a string it has collected
therefore accepts the bytes of every text.
-/

namespace Warden

/-- The bytes of a packed array, read out by its loop, are its data. -/
theorem ByteArray.toList_eq_data (b : ByteArray) : b.toList = b.data.toList := by
  show ByteArray.toList.loop b 0 [] = _
  -- the loop has pushed the first `i` bytes, last first, onto `r`
  suffices h : ∀ i r, i ≤ b.size → ByteArray.toList.loop b i r = r.reverse ++ b.data.toList.drop i by
    simpa using h 0 [] (Nat.zero_le _)
  intro i r hi
  fun_induction ByteArray.toList.loop b i r with
  | case1 i r hlt ih =>
    have hlt' : i < b.data.size := hlt
    have hlen : i < b.data.toList.length := by rw [Array.length_toList]; exact hlt
    rw [ih (by omega), List.drop_eq_getElem_cons hlen, List.reverse_cons, List.append_assoc,
      List.singleton_append, ByteArray.get!, getElem!_pos b.data i hlt', Array.getElem_toList]
  | case2 i r hge =>
    have hle : b.data.toList.length ≤ i := by rw [Array.length_toList]; exact Nat.le_of_not_lt hge
    rw [List.drop_eq_nil_of_le hle, List.append_nil]

namespace Text

/-- A character's code point is a Unicode scalar value: below the surrogates, or above them
and within the seventeen planes. -/
theorem toNat_isValid (c : Char) : c.toNat < 0xD800 ∨ (0xDFFF < c.toNat ∧ c.toNat < 0x110000) :=
  c.valid

@[simp] theorem toNat_toUInt8 (n : Nat) : n.toUInt8.toNat = n % 256 := UInt8.toNat_ofNat

/-! ## Encoding -/

/-- The runtime's encoding of a character is `utf8Bytes` of its code point. -/
theorem utf8EncodeChar_eq (c : Char) : String.utf8EncodeChar c = utf8Bytes c.toNat := by
  have hc := toNat_isValid c
  have hv : c.val.toNat = c.toNat := rfl
  unfold String.utf8EncodeChar utf8Bytes
  simp only [hv]
  -- one case per length of the encoding; each byte is the same number, reduced differently
  by_cases h1 : c.toNat < 0x80
  · rw [if_pos (by omega), if_pos h1]
  by_cases h2 : c.toNat < 0x800
  · rw [if_neg (by omega), if_pos (by omega), if_neg h1, if_pos h2]
    refine congrArg₂ _ (congrArg _ ?_) (congrArg₂ _ (congrArg _ ?_) rfl) <;> omega
  by_cases h3 : c.toNat < 0x10000
  · rw [if_neg (by omega), if_neg (by omega), if_pos (by omega), if_neg h1, if_neg h2, if_pos h3]
    refine congrArg₂ _ (congrArg _ ?_) (congrArg₂ _ (congrArg _ ?_) (congrArg₂ _ (congrArg _ ?_) rfl)) <;>
      omega
  · rw [if_neg (by omega), if_neg (by omega), if_neg (by omega), if_neg h1, if_neg h2, if_neg h3]
    refine congrArg₂ _ (congrArg _ ?_) (congrArg₂ _ (congrArg _ ?_)
      (congrArg₂ _ (congrArg _ ?_) (congrArg₂ _ (congrArg _ ?_) rfl))) <;> omega

/-- The bytes of a text are the UTF-8 bytes of its characters. -/
theorem toUTF8_toList (s : String) : (String.toUTF8 s).toList = encodeUtf8 s := by
  rw [String.toUTF8_eq_toByteArray, ← String.utf8Encode_toList, ByteArray.toList_eq_data,
    List.utf8Encode, List.toList_data_toByteArray, encodeUtf8]
  exact congrArg s.toList.flatMap (funext utf8EncodeChar_eq)

@[simp] theorem encodeUtf8_append (s t : String) : encodeUtf8 (s ++ t) = encodeUtf8 s ++ encodeUtf8 t := by
  simp [encodeUtf8]

@[simp] theorem encodeUtf8_join (l : List String) : encodeUtf8 (String.join l) = l.flatMap encodeUtf8 := by
  induction l with
  | nil => rfl
  | cons s l ih => rw [String.join_cons, encodeUtf8_append, ih, List.flatMap_cons]

/-! ## Decoding -/

theorem isContinuation_toUInt8 (k : Nat) (hk : k < 64) : isContinuation (0x80 + k).toUInt8 = true := by
  simp only [isContinuation, toNat_toUInt8, decide_eq_true_eq]
  omega

/-- The low six bits a continuation byte carries. -/
theorem continuation_payload (k : Nat) : (0x80 + k % 64) % 256 % 64 = k % 64 := by omega

theorem decodeUtf8_one {b : UInt8} (hb : b.toNat < 0x80) (rest : List UInt8) :
    decodeUtf8 (b :: rest) = (decodeUtf8 rest).map (Char.ofNat b.toNat :: ·) := by
  cases rest <;> simp [decodeUtf8, hb]

/-- The decoder reads back the encoding of a scalar value, whatever follows it. -/
theorem decodeUtf8_utf8Bytes (n : Nat) (hn : n < 0xD800 ∨ (0xDFFF < n ∧ n < 0x110000))
    (rest : List UInt8) :
    decodeUtf8 (utf8Bytes n ++ rest) = (decodeUtf8 rest).map (Char.ofNat n :: ·) := by
  unfold utf8Bytes
  by_cases h1 : n < 0x80
  · rw [if_pos h1, List.singleton_append, decodeUtf8_one (by simp; omega), toNat_toUInt8,
      Nat.mod_eq_of_lt (by omega)]
  by_cases h2 : n < 0x800
  · rw [if_neg h1, if_pos h2, List.cons_append, List.cons_append, List.nil_append]
    have hb : (0xC0 + n / 64) % 256 = 0xC0 + n / 64 := Nat.mod_eq_of_lt (by omega)
    have hv : (0xC0 + n / 64) % 32 * 64 + (0x80 + n % 64) % 256 % 64 = n := by
      rw [continuation_payload, show (0xC0 + n / 64) % 32 = n / 64 by omega]
      omega
    simp only [decodeUtf8, toNat_toUInt8, hb, isContinuation_toUInt8 _ (Nat.mod_lt n (by decide)), hv]
    rw [if_neg (by omega), if_pos (by omega), if_true]
  by_cases h3 : n < 0x10000
  · rw [if_neg h1, if_neg h2, if_pos h3, List.cons_append, List.cons_append, List.cons_append,
      List.nil_append]
    have hb : (0xE0 + n / 4096) % 256 = 0xE0 + n / 4096 := Nat.mod_eq_of_lt (by omega)
    have hv : (0xE0 + n / 4096) % 16 * 4096 + (0x80 + n / 64 % 64) % 256 % 64 * 64 +
        (0x80 + n % 64) % 256 % 64 = n := by
      rw [continuation_payload, continuation_payload, show (0xE0 + n / 4096) % 16 = n / 4096 by omega]
      omega
    simp only [decodeUtf8, toNat_toUInt8, hb, isContinuation_toUInt8 _ (Nat.mod_lt _ (show 64 > 0 by decide)),
      hv]
    rw [if_neg (by omega), if_neg (by omega), if_pos (by omega), if_pos (by simp; omega)]
  · rw [if_neg h1, if_neg h2, if_neg h3, List.cons_append, List.cons_append, List.cons_append,
      List.cons_append, List.nil_append]
    have hb : (0xF0 + n / 262144) % 256 = 0xF0 + n / 262144 := Nat.mod_eq_of_lt (by omega)
    have hv : (0xF0 + n / 262144) % 8 * 262144 + (0x80 + n / 4096 % 64) % 256 % 64 * 4096 +
        (0x80 + n / 64 % 64) % 256 % 64 * 64 + (0x80 + n % 64) % 256 % 64 = n := by
      rw [continuation_payload, continuation_payload, continuation_payload,
        show (0xF0 + n / 262144) % 8 = n / 262144 by omega]
      omega
    simp only [decodeUtf8, toNat_toUInt8, hb, isContinuation_toUInt8 _ (Nat.mod_lt _ (show 64 > 0 by decide)),
      hv]
    rw [if_neg (by omega), if_neg (by omega), if_neg (by omega), if_pos (by omega), if_pos (by simp; omega)]

/-- The decoder reads back the bytes of characters, whatever follows them. -/
theorem decodeUtf8_flatMap_append (cs : List Char) (rest : List UInt8) :
    decodeUtf8 (cs.flatMap (fun c => utf8Bytes c.toNat) ++ rest) = (decodeUtf8 rest).map (cs ++ ·) := by
  induction cs with
  | nil => simp
  | cons c cs ih =>
    rw [List.flatMap_cons, List.append_assoc, decodeUtf8_utf8Bytes _ (toNat_isValid c), ih,
      Option.map_map, Char.ofNat_toNat]
    rfl

/-- **UTF-8 round trip.** The strict decoder reads back the bytes of every text. -/
theorem decodeUtf8_encodeUtf8 (s : String) : decodeUtf8 (encodeUtf8 s) = some s.toList := by
  have h := decodeUtf8_flatMap_append s.toList []
  rw [List.append_nil] at h
  rw [encodeUtf8, h]
  simp [decodeUtf8]

/-! ## Order

UTF-8 lays out a code point's base-64 digits behind a lead byte that grows with the length of
the encoding, so comparing bytes compares code points: the byte order of texts is the order of
their characters (`encodeUtf8_le_of_le`).
-/

/-- The bytes of a smaller code point come first, whatever follows either. -/
theorem utf8Bytes_append_lt {m n : Nat} (hn : n < 0x110000) (hmn : m < n) (xs ys : List UInt8) :
    utf8Bytes m ++ xs < utf8Bytes n ++ ys := by
  -- the bytes are the base-64 digits of the code point; omega needs the digits to nest
  have hm₁ : m / 64 / 64 = m / 4096 := Nat.div_div_eq_div_mul m 64 64
  have hm₂ : m / 4096 / 64 = m / 262144 := Nat.div_div_eq_div_mul m 4096 64
  have hn₁ : n / 64 / 64 = n / 4096 := Nat.div_div_eq_div_mul n 64 64
  have hn₂ : n / 4096 / 64 = n / 262144 := Nat.div_div_eq_div_mul n 4096 64
  unfold utf8Bytes
  split_ifs <;>
    simp (disch := omega) only [List.cons_append, List.cons_lt_cons_iff, UInt8.lt_iff_toNat_lt,
      ← UInt8.toNat_inj, toNat_toUInt8, Nat.mod_eq_of_lt] <;> omega

theorem utf8Bytes_ne_nil (n : Nat) : utf8Bytes n ≠ [] := by
  unfold utf8Bytes
  split_ifs <;> exact List.cons_ne_nil _ _

/-- Characters in order have their bytes in order. -/
theorem flatMap_utf8Bytes_lt {cs ds : List Char} (h : cs < ds) :
    cs.flatMap (fun c => utf8Bytes c.toNat) < ds.flatMap (fun c => utf8Bytes c.toNat) := by
  have hlex : List.Lex (· < ·) cs ds := h
  induction hlex with
  | nil =>
    rw [List.flatMap_nil, List.flatMap_cons]
    obtain ⟨b, bs, hb⟩ := List.exists_cons_of_ne_nil (utf8Bytes_ne_nil _)
    rw [hb, List.cons_append]
    exact List.nil_lt_cons _ _
  | cons _ ih =>
    rw [List.flatMap_cons, List.flatMap_cons]
    exact List.append_left_lt (ih ‹_›)
  | @rel c _ d _ hcd =>
    have hd : d.toNat < 0x110000 := by rcases toNat_isValid d with h | h <;> omega
    rw [List.flatMap_cons, List.flatMap_cons]
    -- the order of characters is the order of their code points
    exact utf8Bytes_append_lt hd hcd _ _

/-- **Byte order.** A text at or before another has its UTF-8 bytes at or before the other's. -/
theorem encodeUtf8_le_of_le {s t : String} (h : s ≤ t) : encodeUtf8 s ≤ encodeUtf8 t := by
  rcases lt_or_eq_of_le (α := String) h with hlt | rfl
  · exact List.le_of_lt (flatMap_utf8Bytes_lt (String.lt_iff_toList_lt.1 hlt))
  · exact List.le_refl _

end Text

end Warden
