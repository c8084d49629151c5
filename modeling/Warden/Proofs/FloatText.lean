import Warden.Proofs.NumberText
import Warden.Proofs.ShortestDigits

/-!
# How a float is written, and read again

`compactText` writes a finite value from its shortest digits `d` and the power of ten `x` of the
last one, in one of five layouts: the digits, zeros and `.0`; a point inside the digits; `0.`,
zeros and the digits; one digit and an exponent; the first digit, a point, the others and an
exponent. Each layout is a `Numeral`, the shape the number reader takes (`compactBody_numeral`).

The reader rounds the digits to binary64 and, when the exponent is not negative, multiplies by a
rounded power of ten, which may overflow. The shortest digits lie within half a last place of
the value, so they stay under `2^1024 - 6 · 2^970`, below which the product of the two rounded
factors is finite, for all but the three largest values, which are checked one by one
(`partsFit_digitsOf`).
-/

namespace Warden

namespace Binary64

/-- The text of a positive value after its sign, from its shortest digits `d` and the power of
ten `x` of the last one, as `compactText` writes it. -/
def compactBody (d : Nat) (x : Int) : String :=
  let ds := Nat.toDigits 10 d
  let len : Int := ds.length
  let kk := len + x
  if 0 ≤ x ∧ kk ≤ 16 then String.ofList (ds ++ List.replicate x.toNat '0') ++ ".0"
  else if 0 < kk ∧ kk ≤ 16 then
    String.ofList (ds.take kk.toNat ++ '.' :: ds.drop kk.toNat)
  else if -5 < kk ∧ kk ≤ 0 then
    String.ofList ('0' :: '.' :: (List.replicate (-kk).toNat '0' ++ ds))
  else if ds.length = 1 then String.ofList ds ++ "e" ++ exponentText (kk - 1)
  else String.ofList (ds.take 1 ++ '.' :: ds.drop 1) ++ "e" ++ exponentText (kk - 1)

theorem compactText_finite (neg : Bool) {m : Nat} (hm : m ≠ 0) (e : Int) :
    (finite neg m e).compactText = (if neg then "-" else "") ++ compactBody (digitsOf m e).1 (digitsOf m e).2 := by
  obtain ⟨m, rfl⟩ : ∃ k, m = k + 1 := ⟨m - 1, by omega⟩
  rfl

/-- A finite value in the binary64 format: at most 53 bits of significand and an exponent in the
format's range. Whether the significand is normalised does not change how it is written. -/
def InFormat : Binary64 → Prop
  | finite _ m e => m < twoPow53 ∧ minExp ≤ e ∧ e ≤ maxExp
  | _ => False

instance : DecidablePred InFormat := fun v => by
  cases v <;> unfold InFormat <;> infer_instance

/-- The shortest digits of a finite value are worth it to within half its last place. -/
theorem digitsOf_near {m : Nat} (hm0 : 0 < m) (hm : m < twoPow53) (e : Int) :
    ((m : ℚ) - 1 / 2) * 2 ^ e ≤ (digitsOf m e).1 * 10 ^ (digitsOf m e).2 ∧
      ((digitsOf m e).1 : ℚ) * 10 ^ (digitsOf m e).2 ≤ (m + 1 / 2) * 2 ^ e := by
  obtain ⟨-, -, hnear⟩ := digitsOf_spec hm0 hm e
  rw [abs_le] at hnear
  generalize ((digitsOf m e).1 : ℚ) * 10 ^ (digitsOf m e).2 = D at *
  generalize (2 : ℚ) ^ e = T at *
  constructor <;> linarith [hnear.1, hnear.2]

/-- The last digit of a finite value in the format stands between `10^-1092` and `10^308`. -/
theorem digitsOf_exponent_bounds {m : Nat} (hm0 : 0 < m) (hm : m < twoPow53) {e : Int} (he0 : minExp ≤ e)
    (he1 : e ≤ maxExp) : -1092 ≤ (digitsOf m e).2 ∧ (digitsOf m e).2 ≤ 308 := by
  obtain ⟨hd0, hd17, -⟩ := digitsOf_spec hm0 hm e
  obtain ⟨hlo, hhi⟩ := digitsOf_near hm0 hm e
  generalize digitsOf m e = p at *
  obtain ⟨d, x⟩ := p
  dsimp only at hd0 hd17 hlo hhi ⊢
  have hm1 : (1 : ℚ) ≤ m := by exact_mod_cast hm0
  have hd1 : (1 : ℚ) ≤ d := by exact_mod_cast hd0
  have hT : (0 : ℚ) < 2 ^ e := by positivity
  constructor
  · -- below `10^-1092` the digits would be worth less than half the smallest subnormal
    by_contra hx
    have hsmall : (d : ℚ) * 10 ^ x ≤ 10 ^ (-1076 : Int) := by
      have hd : (d : ℚ) ≤ 10 ^ 17 := by exact_mod_cast (hd17 : d ≤ 10 ^ 17)
      calc (d : ℚ) * 10 ^ x ≤ 10 ^ 17 * 10 ^ (-1093 : Int) :=
            mul_le_mul hd (zpow_le_zpow_right₀ (by norm_num) (by omega)) (by positivity) (by positivity)
        _ = 10 ^ (-1076 : Int) := by rw [← zpow_natCast, ← zpow_add₀ (by norm_num)]; norm_num
    have hpow : (2 : ℚ) ^ 1075 < 10 ^ 1076 :=
      (pow_lt_pow_left₀ (by norm_num) (by norm_num) (by norm_num)).trans_le (pow_le_pow_right₀ (by norm_num) (by norm_num))
    have htiny : (10 : ℚ) ^ (-1076 : Int) < 2 ^ (-1075 : Int) := by
      rw [zpow_neg, zpow_neg, zpow_ofNat, zpow_ofNat]
      exact inv_strictAnti₀ (by positivity) hpow
    have hhalf : (2 : ℚ) ^ (-1075 : Int) ≤ 2 ^ e / 2 := by
      rw [show (-1075 : Int) = -1074 - 1 by norm_num, zpow_sub_one₀ (by norm_num), div_eq_mul_inv]
      exact mul_le_mul_of_nonneg_right (zpow_le_zpow_right₀ (by norm_num) he0) (by norm_num)
    generalize (2 : ℚ) ^ e = T at *
    have hhalfT : T / 2 ≤ (m - 1 / 2) * T := by nlinarith
    linarith
  · -- past `10^308` the digits would be worth more than the largest finite value
    by_contra hx
    have hbig : (10 : ℚ) ^ 309 ≤ d * 10 ^ x := by
      calc (10 : ℚ) ^ 309 = 1 * 10 ^ (309 : Int) := by rw [one_mul, zpow_ofNat]
        _ ≤ d * 10 ^ x := mul_le_mul hd1 (zpow_le_zpow_right₀ (by norm_num) (by omega)) (by positivity) (by positivity)
    have hmax : ((m : ℚ) + 1 / 2) * 2 ^ e ≤ 2 ^ 53 * 2 ^ 971 := by
      have hm53 : (m : ℚ) + 1 ≤ 2 ^ 53 := by exact_mod_cast (hm : m + 1 ≤ 2 ^ 53)
      have he : (2 : ℚ) ^ e ≤ 2 ^ 971 := by
        rw [← zpow_natCast]
        exact zpow_le_zpow_right₀ (by norm_num) he1
      exact mul_le_mul (by linarith) he hT.le (by positivity)
    have hreach := hbig.trans (hhi.trans hmax)
    rw [← pow_add] at hreach
    exact absurd hreach (not_le.2 two_pow_lt_ten_pow)

/-- Half a unit past a value in the format, short of the three largest, stays six units of
`2^970` below `2^1024`. -/
theorem value_le_limit {m : Nat} (hm : m < twoPow53) {e : Int} (he : e ≤ maxExp)
    (hnot : ¬(e = maxExp ∧ twoPow53 - 3 ≤ m)) : ((m : ℚ) + 1 / 2) * 2 ^ e ≤ 2 ^ 1024 - 6 * 2 ^ 970 := by
  have hpos : (0 : ℚ) ≤ m + 1 / 2 := by positivity
  have h1024 : (2 : ℚ) ^ 1024 = 2 ^ 54 * 2 ^ 970 := by rw [← pow_add]
  have hX : (0 : ℚ) < 2 ^ 970 := by positivity
  rw [h1024]
  clear h1024
  rcases lt_or_eq_of_le he with he | rfl
  · -- one exponent short of the top, the value is at most `2^1023`
    have hm53 : (m : ℚ) + 1 ≤ 2 ^ 53 := by exact_mod_cast (hm : m + 1 ≤ 2 ^ 53)
    have hpow : (2 : ℚ) ^ e ≤ 2 ^ 970 := by
      rw [← zpow_natCast]
      exact zpow_le_zpow_right₀ (by norm_num) (by unfold maxExp at he; push_cast; omega)
    have hsplit : (2 : ℚ) ^ 54 = 2 * 2 ^ 53 := by rw [← pow_succ']
    have hY : (8 : ℚ) ≤ 2 ^ 53 := by norm_num
    have hbelow : ((m : ℚ) + 1 / 2) * 2 ^ e ≤ ((m : ℚ) + 1 / 2) * 2 ^ 970 := mul_le_mul_of_nonneg_left hpow hpos
    rw [hsplit]
    generalize (2 : ℚ) ^ 970 = X at *
    generalize (2 : ℚ) ^ 53 = Y at *
    nlinarith [mul_le_mul_of_nonneg_right hm53 hX.le, mul_le_mul_of_nonneg_right hY hX.le]
  · -- at the top exponent, the significand is at least four short of `2^53`
    have hm4 : (m : ℚ) + 4 ≤ 2 ^ 53 := by
      have : m + 4 ≤ 2 ^ 53 := by unfold twoPow53 at hm hnot; simp only [maxExp, true_and, not_le] at hnot; omega
      exact_mod_cast this
    have hpow : (2 : ℚ) ^ maxExp = 2 * 2 ^ 970 := by
      rw [show maxExp = ((971 : Nat) : Int) from rfl, zpow_natCast, pow_succ']
    have hsplit : (2 : ℚ) ^ 54 = 2 * 2 ^ 53 := by rw [← pow_succ']
    rw [hpow, hsplit]
    generalize (2 : ℚ) ^ 970 = X at *
    generalize (2 : ℚ) ^ 53 = Y at *
    nlinarith [mul_le_mul_of_nonneg_right hm4 hX.le]

end Binary64

namespace Json

open Binary64

/-- Characters that are ASCII, which UTF-8 writes as one byte each. -/
def Ascii (cs : List Char) : Prop := ∀ c ∈ cs, c.toNat < 128

theorem ascii_append {cs ds : List Char} (hc : Ascii cs) (hd : Ascii ds) : Ascii (cs ++ ds) := by
  intro c h
  rcases List.mem_append.1 h with h | h
  exacts [hc c h, hd c h]

theorem ascii_cons {c : Char} {cs : List Char} (hc : c.toNat < 128) (hcs : Ascii cs) : Ascii (c :: cs) := by
  intro x h
  rcases List.mem_cons.1 h with rfl | h
  exacts [hc, hcs x h]

theorem ascii_zeros (j : Nat) : Ascii (List.replicate j '0') := by
  intro c h
  rw [List.eq_of_mem_replicate h]
  decide

theorem ascii_take {cs : List Char} (h : Ascii cs) (k : Nat) : Ascii (cs.take k) := fun c hc => h c (List.mem_of_mem_take hc)

theorem ascii_drop {cs : List Char} (h : Ascii cs) (k : Nat) : Ascii (cs.drop k) := fun c hc => h c (List.mem_of_mem_drop hc)

/-- The bytes of ASCII text are its characters' codes. -/
theorem encodeUtf8_ofList_ascii {cs : List Char} (h : Ascii cs) :
    Text.encodeUtf8 (String.ofList cs) = cs.map fun c => c.toNat.toUInt8 := by
  rw [Text.encodeUtf8, String.toList_ofList]
  induction cs with
  | nil => rfl
  | cons c cs ih =>
    rw [List.flatMap_cons, List.map_cons, ih fun x hx => h x (List.mem_cons_of_mem _ hx), Text.utf8Bytes,
      if_pos (h c List.mem_cons_self)]
    rfl

theorem toDigits_ascii (d : Nat) : Ascii (Nat.toDigits 10 d) := by
  intro c hc
  obtain ⟨k, hk, rfl⟩ := mem_toDigits hc
  rw [Nat.toNat_digitChar_of_lt_ten hk]
  omega

/-- The first digit of a positive number is no zero. -/
theorem repr_head_ne {d : Nat} (hd : 0 < d) : ∀ b ∈ (Text.encodeUtf8 d.repr).head?, b ≠ 48 := by
  intro b hb h48
  rw [h48] at hb
  have hzero := repr_head d (Option.mem_def.1 hb)
  have := foldl_digitStep_repr d
  rw [hzero] at this
  exact absurd this (by simp [digitStep]; omega)

/-- Zero digits after a value multiply it by ten each. -/
theorem foldl_digitStep_zeros (v j : Nat) : (List.replicate j (48 : UInt8)).foldl digitStep v = v * 10 ^ j := by
  induction j generalizing v with
  | zero => simp
  | succ j ih =>
    rw [List.replicate_succ, List.foldl_cons, ih, digitStep, pow_succ]
    simp only [show (48 : UInt8).toNat = 48 from rfl, Nat.sub_self, Nat.add_zero]
    ring

theorem fractionBytes_of_ne_nil {l : List UInt8} (h : l ≠ []) : fractionBytes l = 46 :: l := by
  obtain ⟨a, l, rfl⟩ := List.exists_cons_of_ne_nil h
  rfl

/-- An exponent as `compactText` writes it: `e` and the signed power, its sign always shown. -/
theorem encodeUtf8_exponentText (j : Int) :
    Text.encodeUtf8 ("e" ++ exponentText j) = expBytes (decide (0 ≤ j)) j.natAbs := by
  rcases Int.lt_or_le j 0 with hj | hj
  · obtain ⟨k, rfl⟩ : ∃ k : Nat, j = Int.negSucc k := ⟨j.natAbs - 1, by omega⟩
    rw [exponentText, if_pos hj, Text.encodeUtf8_append, encodeUtf8_toString_negSucc, expBytes,
      decide_eq_false (by omega)]
    rfl
  · obtain ⟨k, rfl⟩ := Int.eq_ofNat_of_zero_le hj
    rw [exponentText, if_neg (by omega), Text.encodeUtf8_append, Text.encodeUtf8_append, expBytes,
      decide_eq_true hj]
    rfl

theorem exponentValue_natAbs (j : Int) : exponentValue (some (decide (0 ≤ j), j.natAbs)) = j := by
  by_cases h : 0 ≤ j
  · simp only [exponentValue, decide_eq_true h, if_true]
    omega
  · simp only [exponentValue, decide_eq_false h, Bool.false_eq_true, if_false]
    omega

/-! ## The numerals a float is written as -/

section Layouts

variable (d : Nat) (hd : 0 < d)

/-- The digits of `d` split after the first `k`, as a numeral with the exponent given: a point
inside the digits, or one digit and an exponent. -/
def splitNumeral (k : Nat) (hk : 0 < k) (exp : Option (Bool × Nat)) : Numeral where
  whole := (Text.encodeUtf8 d.repr).take k
  frac := (Text.encodeUtf8 d.repr).drop k
  exp := exp
  whole_digits := fun b hb => isDigitByte_repr d b (List.mem_of_mem_take hb)
  whole_ne := by simp [encodeUtf8_repr_ne_nil, hk.ne']
  whole_lead := fun h => by
    rw [List.head?_take, if_neg hk.ne'] at h
    exact absurd rfl (repr_head_ne hd 48 h)
  frac_digits := fun b hb => isDigitByte_repr d b (List.mem_of_mem_drop hb)

/-- The digits of `d`, `j` zeros, and the fraction `.0`. -/
def pointNumeral (j : Nat) : Numeral where
  whole := Text.encodeUtf8 d.repr ++ List.replicate j 48
  frac := [48]
  exp := none
  whole_digits := fun b hb => by
    rcases List.mem_append.1 hb with hb | hb
    · exact isDigitByte_repr d b hb
    · rw [List.eq_of_mem_replicate hb]; rfl
  whole_ne := by simp [encodeUtf8_repr_ne_nil]
  whole_lead := fun h => by
    obtain ⟨b, bs, hbs, -⟩ := encodeUtf8_repr_cons d
    rw [hbs, List.cons_append, List.head?_cons] at h
    exact absurd (Option.some.inj h) (repr_head_ne hd b (by rw [hbs]; rfl))
  frac_digits := fun b hb => by rw [List.mem_singleton.1 hb]; rfl

/-- `0.`, `j` zeros, and the digits of `d`. -/
def smallNumeral (j : Nat) : Numeral where
  whole := [48]
  frac := List.replicate j 48 ++ Text.encodeUtf8 d.repr
  exp := none
  whole_digits := fun b hb => by rw [List.mem_singleton.1 hb]; rfl
  whole_ne := by simp
  whole_lead := fun _ => rfl
  frac_digits := fun b hb => by
    rcases List.mem_append.1 hb with hb | hb
    · rw [List.eq_of_mem_replicate hb]; rfl
    · exact isDigitByte_repr d b hb

theorem splitNumeral_significand (k : Nat) (hk : 0 < k) (exp : Option (Bool × Nat)) :
    (splitNumeral d hd k hk exp).significand = d := by
  rw [Numeral.significand, splitNumeral, List.take_append_drop, foldl_digitStep_repr]

theorem splitNumeral_exponent (k : Nat) (hk : 0 < k) (exp : Option (Bool × Nat)) :
    (splitNumeral d hd k hk exp).exponent = -(((Text.encodeUtf8 d.repr).length - k : Nat) : Int) + exponentValue exp := by
  rw [Numeral.exponent, splitNumeral, List.length_drop]

theorem pointNumeral_significand (j : Nat) : (pointNumeral d hd j).significand = d * 10 ^ j * 10 := by
  rw [Numeral.significand, pointNumeral, List.foldl_append, List.foldl_append, foldl_digitStep_repr,
    foldl_digitStep_zeros]
  rfl

theorem smallNumeral_significand (j : Nat) : (smallNumeral d j).significand = d := by
  rw [Numeral.significand, smallNumeral, List.singleton_append, List.foldl_cons, List.foldl_append,
    show digitStep 0 48 = 0 from rfl, foldl_digitStep_zeros, Nat.zero_mul, foldl_digitStep_repr]

end Layouts

/-- **The layouts of a float's text.** The body of a compact float text is a numeral with a
fraction or an exponent, whose digits are worth at most `10^17` and whose value is `d · 10^x`. Its
exponent is negative, or else its digits are those of `d` and its exponent `x`. -/
theorem compactBody_numeral {d : Nat} (hd : 0 < d) (hd17 : d ≤ Nat.pow 10 17) {x : Int}
    (hxlo : -1092 ≤ x) (hxhi : x ≤ 400) :
    ∃ n : Numeral, Text.encodeUtf8 (compactBody d x) = n.bytes ∧ (n.frac ≠ [] ∨ n.exp.isSome = true) ∧
      n.significand ≤ Nat.pow 10 17 ∧ ExponentFits (-(n.frac.length : Int)) n.exp ∧
      (n.significand : ℚ) * 10 ^ n.exponent = d * 10 ^ x ∧
      (n.exponent < 0 ∨ n.significand = d ∧ n.exponent = x) := by
  have hbytes := encodeUtf8_repr d
  have hascii : Ascii (Nat.toDigits 10 d) := toDigits_ascii d
  have hlen : (Text.encodeUtf8 d.repr).length = (Nat.toDigits 10 d).length := by rw [hbytes, List.length_map]
  have hL0 : 0 < (Nat.toDigits 10 d).length := Nat.length_toDigits_pos
  have hdlt : d < 10 ^ (Nat.toDigits 10 d).length := (Nat.length_toDigits_le_iff (by decide) hL0).1 le_rfl
  have hL18 : (Nat.toDigits 10 d).length ≤ 18 :=
    (Nat.length_toDigits_le_iff (by decide) (by decide)).2 (lt_of_le_of_lt hd17 (by decide))
  -- the layouts but the first have the digits of `d` and the exponent `x`
  have hsame : ∀ n : Numeral, n.significand = d → n.exponent = x →
      (n.significand : ℚ) * 10 ^ n.exponent = d * 10 ^ x ∧ (n.exponent < 0 ∨ n.significand = d ∧ n.exponent = x) :=
    fun n hs he => ⟨by rw [hs, he], .inr ⟨hs, he⟩⟩
  -- the two layouts with an exponent keep the first digit before the point, however many follow
  obtain ⟨sci, hsci⟩ : ∃ n, n = splitNumeral d hd 1 Nat.one_pos (some (decide (0 ≤ ((Nat.toDigits 10 d).length : Int) + x - 1),
      (((Nat.toDigits 10 d).length : Int) + x - 1).natAbs)) := ⟨_, rfl⟩
  have hsci_sig : sci.significand = d := by rw [hsci, splitNumeral_significand]
  have hsci_fits : ExponentFits (-(sci.frac.length : Int)) sci.exp := by
    simp only [hsci, ExponentFits, splitNumeral, List.length_drop, hlen]
    omega
  have hsci_exp : sci.exponent = x := by
    rw [hsci, splitNumeral_exponent, exponentValue_natAbs, hlen]
    omega
  unfold compactBody
  dsimp only
  split_ifs with h1 h2 h3 h4
  · -- digits, zeros, and `.0`
    obtain ⟨j, rfl⟩ := Int.eq_ofNat_of_zero_le h1.1
    refine ⟨pointNumeral d hd j, ?_, .inl (by simp [pointNumeral]), ?_, trivial, ?_, .inl (by
      simp [Numeral.exponent, pointNumeral, exponentValue])⟩
    · rw [Text.encodeUtf8_append, encodeUtf8_ofList_ascii (ascii_append hascii (ascii_zeros _)), List.map_append,
        List.map_replicate, ← hbytes, Int.toNat_natCast]
      simp only [Numeral.bytes, pointNumeral, fractionBytes, exponentBytes, List.append_nil]
      rfl
    · rw [pointNumeral_significand]
      have hpow : d * 10 ^ j < 10 ^ 16 := by
        calc d * 10 ^ j < 10 ^ (Nat.toDigits 10 d).length * 10 ^ j := Nat.mul_lt_mul_of_pos_right hdlt (by positivity)
          _ = 10 ^ ((Nat.toDigits 10 d).length + j) := by rw [pow_add]
          _ ≤ 10 ^ 16 := Nat.pow_le_pow_right (by decide) (by omega)
      show d * 10 ^ j * 10 ≤ 10 ^ 17
      omega
    · rw [pointNumeral_significand]
      simp only [Numeral.exponent, pointNumeral, exponentValue, List.length_singleton]
      push_cast
      rw [zpow_neg_one, zpow_natCast]
      field_simp
  · -- a point inside the digits
    have hx : x < 0 := by omega
    obtain ⟨k, hk⟩ : ∃ k : Nat, ((Nat.toDigits 10 d).length : Int) + x = k := ⟨_, (Int.toNat_of_nonneg (by omega)).symm⟩
    have hk0 : 0 < k := by omega
    have hkL : k < (Nat.toDigits 10 d).length := by omega
    refine ⟨splitNumeral d hd k hk0 none, ?_, .inl ?_, ?_, trivial,
      hsame _ (splitNumeral_significand d hd k hk0 none) ?_⟩
    · rw [hk, Int.toNat_natCast, encodeUtf8_ofList_ascii (ascii_append (ascii_take hascii _)
        (ascii_cons (by decide) (ascii_drop hascii _))), List.map_append, List.map_cons, List.map_take, List.map_drop,
        ← hbytes]
      simp only [Numeral.bytes, splitNumeral, exponentBytes, List.append_nil]
      rw [fractionBytes_of_ne_nil (by rw [Ne, List.drop_eq_nil_iff, hlen]; omega)]
      rfl
    · simp [splitNumeral, hlen]
      omega
    · rw [splitNumeral_significand]
      exact hd17
    · rw [splitNumeral_exponent, hlen, exponentValue]
      omega
  · -- a zero, a point, zeros, and the digits
    obtain ⟨j, hj⟩ : ∃ j : Nat, -(((Nat.toDigits 10 d).length : Int) + x) = j := ⟨_, (Int.toNat_of_nonneg (by omega)).symm⟩
    refine ⟨smallNumeral d j, ?_, .inl (fun h => encodeUtf8_repr_ne_nil d (List.append_eq_nil_iff.1 h).2), ?_, trivial,
      hsame _ (smallNumeral_significand d j) ?_⟩
    · rw [hj, Int.toNat_natCast, encodeUtf8_ofList_ascii (ascii_cons (by decide) (ascii_cons (by decide)
        (ascii_append (ascii_zeros _) hascii))), List.map_cons, List.map_cons, List.map_append, List.map_replicate,
        ← hbytes]
      simp only [Numeral.bytes, smallNumeral, exponentBytes, List.append_nil]
      rw [fractionBytes_of_ne_nil (fun h => encodeUtf8_repr_ne_nil d (List.append_eq_nil_iff.1 h).2)]
      rfl
    · rw [smallNumeral_significand]
      exact hd17
    · simp only [Numeral.exponent, smallNumeral, exponentValue, List.length_append, List.length_replicate, hlen]
      omega
  · -- one digit and an exponent
    refine ⟨sci, ?_, .inr (by rw [hsci]; rfl), hsci_sig.trans_le hd17, hsci_fits, hsame _ hsci_sig hsci_exp⟩
    rw [String.append_assoc, Text.encodeUtf8_append, encodeUtf8_ofList_ascii hascii, ← hbytes,
      encodeUtf8_exponentText]
    have hone : (Text.encodeUtf8 d.repr).length = 1 := by rw [hlen, h4]
    simp only [hsci, Numeral.bytes, splitNumeral, exponentBytes, List.take_of_length_le hone.le,
      List.drop_of_length_le hone.le, fractionBytes, List.append_nil]
  · -- the first digit, a point, the others, and an exponent
    refine ⟨sci, ?_, .inr (by rw [hsci]; rfl), hsci_sig.trans_le hd17, hsci_fits, hsame _ hsci_sig hsci_exp⟩
    rw [String.append_assoc, Text.encodeUtf8_append, encodeUtf8_ofList_ascii (ascii_append (ascii_take hascii _)
      (ascii_cons (by decide) (ascii_drop hascii _))), List.map_append, List.map_cons, List.map_take, List.map_drop,
      ← hbytes, encodeUtf8_exponentText]
    simp only [hsci, Numeral.bytes, splitNumeral, exponentBytes]
    rw [fractionBytes_of_ne_nil (by rw [Ne, List.drop_eq_nil_iff, hlen]; omega)]
    simp

/-- **The shortest digits read back.** The shortest digits of a finite value in the format,
read as `d · 10^x` the fast way, do not overflow. -/
theorem partsFit_digitsOf {m : Nat} (hm0 : 0 < m) (hm : m < twoPow53) {e : Int} (he0 : minExp ≤ e)
    (he1 : e ≤ maxExp) : PartsFit (digitsOf m e).1 (digitsOf m e).2 := by
  obtain ⟨-, hxhi⟩ := digitsOf_exponent_bounds hm0 hm he0 he1
  obtain ⟨hd0, -, -⟩ := digitsOf_spec hm0 hm e
  obtain ⟨-, hhi⟩ := digitsOf_near hm0 hm e
  rcases Int.lt_or_le (digitsOf m e).2 0 with hneg | hnonneg
  · exact .inl hneg
  by_cases htop : e = maxExp ∧ twoPow53 - 3 ≤ m
  · -- the three largest values come closer to the threshold than the bound allows: each is checked
    obtain ⟨rfl, htop⟩ := htop
    have hthree : m = twoPow53 - 3 ∨ m = twoPow53 - 2 ∨ m = twoPow53 - 1 := by unfold twoPow53 at *; omega
    rcases hthree with rfl | rfl | rfl <;> decide +kernel
  refine .inr ⟨hnonneg, hxhi, ?_⟩
  generalize digitsOf m e = p at *
  obtain ⟨d, x⟩ := p
  obtain ⟨k, rfl⟩ := Int.eq_ofNat_of_zero_le hnonneg
  dsimp only at hd0 hhi ⊢
  rw [Int.natAbs_natCast]
  refine mul_ofRat_isFinite hd0 (Nat.pow_pos (by decide)) ?_
  have hcast : ((Nat.pow 10 k : Nat) : ℚ) = 10 ^ (k : Int) := by
    rw [zpow_natCast]
    exact_mod_cast (rfl : Nat.pow 10 k = 10 ^ k)
  rw [hcast]
  exact hhi.trans (value_le_limit hm he1 htop)

/-- A number's bytes after its sign: a minus when it is negative. -/
def signedBytes : Bool → List UInt8 → List UInt8
  | true, bytes => bytes
  | false, bytes => 45 :: bytes

/-- `0.0`, as a numeral. -/
def zeroNumeral : Numeral where
  whole := [48]
  frac := [48]
  exp := none
  whole_digits := fun b hb => by rw [List.mem_singleton.1 hb]; rfl
  whole_ne := List.cons_ne_nil _ _
  whole_lead := fun _ => rfl
  frac_digits := fun b hb => by rw [List.mem_singleton.1 hb]; rfl

/-- A sign before a text is one byte more when it is a minus. -/
theorem encodeUtf8_sign (neg : Bool) (s : String) :
    Text.encodeUtf8 ((if neg then "-" else "") ++ s) = signedBytes (!neg) (Text.encodeUtf8 s) := by
  cases neg with
  | false => rw [if_neg Bool.false_ne_true, String.empty_append]; rfl
  | true => rw [if_pos rfl, Text.encodeUtf8_append]; rfl

/-- **How a float is written.** The text of a finite value in the format is a minus sign when
it is negative, then a numeral with a fraction or an exponent, whose digits fit in 64 bits and
whose parts are read back without overflow. -/
theorem compactText_numeral {v : Binary64} (hv : v.InFormat) :
    ∃ (positive : Bool) (n : Numeral), Text.encodeUtf8 v.compactText = signedBytes positive n.bytes ∧
      (n.frac ≠ [] ∨ n.exp.isSome = true) ∧ n.significand ≤ u64Max ∧
      ExponentFits (-(n.frac.length : Int)) n.exp ∧ PartsFit n.significand n.exponent := by
  cases v with
  | nan => cases hv
  | infinite neg => cases hv
  | finite neg m e =>
    obtain ⟨hm, he0, he1⟩ := hv
    rcases Nat.eq_zero_or_pos m with rfl | hm0
    · -- a zero is written `0.0`, signed
      refine ⟨!neg, zeroNumeral, ?_, .inl (List.cons_ne_nil _ _), by decide, trivial, .inl (by decide)⟩
      cases neg <;> simp only [compactText] <;> rfl
    · obtain ⟨hd0, hd17, -⟩ := digitsOf_spec hm0 hm e
      obtain ⟨hxlo, hxhi⟩ := digitsOf_exponent_bounds hm0 hm he0 he1
      obtain ⟨n, hbytes, hfloat, hsig, hexp, -, hfit⟩ := compactBody_numeral hd0 hd17 hxlo (by omega)
      refine ⟨!neg, n, ?_, hfloat, hsig.trans (by decide), hexp, ?_⟩
      · rw [compactText_finite neg hm0.ne' e, encodeUtf8_sign, hbytes]
      · -- a fraction or a negative exponent is divided out; otherwise the parts are the shortest digits
        rcases hfit with hneg | ⟨hS, hE⟩
        · exact .inl hneg
        · rw [hS, hE]
          exact partsFit_digitsOf hm0 hm he0 he1

/-! ## Numbers written and read back -/

section Written

variable {c : Cursor} {more : List UInt8}

/-- Bytes of a number from its first digit on, which the skipping reader passes over and the
number reader takes whole, answering a number that `P` holds of as a value. -/
structure NumberBytes (positive : Bool) (bytes : List UInt8) (P : Json → Prop) : Prop where
  head : ∃ b bs, bytes = b :: bs ∧ isDigitByte b = true
  reads : ∀ c more, c.rest = bytes ++ more → Delimited more →
    ∃ w, P w.toJson ∧ outcome (number positive) c = (.ok w, c.advanceBy bytes.length)
  skips : ∀ c more, c.rest = bytes ++ more → Delimited more →
    outcome skipNumber c = (.ok (), c.advanceBy bytes.length)

/-- A value written as a number, which the number reader reads as `P` says. -/
def WrittenNumber (v : Json) (P : Json → Prop) : Prop :=
  ∃ positive bytes, Text.encodeUtf8 (compact v) = signedBytes positive bytes ∧ NumberBytes positive bytes P

/-- A digit is none of the bytes that open a value of another kind. -/
theorem ne_of_isDigitByte {b x : UInt8} (hb : isDigitByte b = true) (hx : isDigitByte x = false) : b ≠ x := by
  rintro rfl
  rw [hb] at hx
  contradiction

namespace WrittenNumber

variable {v : Json} {P Q : Json → Prop}

theorem mono (h : WrittenNumber v P) (hPQ : ∀ w, P w → Q w) : WrittenNumber v Q := by
  obtain ⟨positive, bytes, htext, hhead, hreads, hskips⟩ := h
  refine ⟨positive, bytes, htext, hhead, fun c more hc hmore => ?_, hskips⟩
  obtain ⟨w, hw, hrun⟩ := hreads c more hc hmore
  exact ⟨w, hPQ _ hw, hrun⟩

/-- A number's text opens with a digit or a minus: no blank, no bracket, brace, quote or `n`. -/
theorem head (h : WrittenNumber v P) :
    ∃ b bs, Text.encodeUtf8 (compact v) = b :: bs ∧ isBlankByte b = false ∧ b ≠ 93 ∧ b ≠ byte '[' ∧
      b ≠ byte '{' ∧ b ≠ byte 'n' ∧ b ≠ byte '"' := by
  obtain ⟨positive, bytes, htext, ⟨b, bs, rfl, hb⟩, -, -⟩ := h
  cases positive with
  | true =>
    exact ⟨b, bs, htext, isBlankByte_of_isDigitByte hb, ne_of_isDigitByte hb (by decide),
      ne_of_isDigitByte hb (by decide), ne_of_isDigitByte hb (by decide), ne_of_isDigitByte hb (by decide),
      ne_of_isDigitByte hb (by decide)⟩
  | false => exact ⟨45, b :: bs, htext, by decide, by decide, by decide, by decide, by decide, by decide⟩

end WrittenNumber

/-- An integer is written as its sign and the digits of its magnitude. -/
theorem encodeUtf8_compact_int (n : Int) :
    Text.encodeUtf8 (compact (.int n)) = signedBytes (decide (0 ≤ n)) (Text.encodeUtf8 n.natAbs.repr) := by
  rw [compact]
  cases n with
  | ofNat m => rw [encodeUtf8_toString_ofNat]; rfl
  | negSucc k => rw [encodeUtf8_toString_negSucc]; rfl

/-- A numeral with a fraction or an exponent whose parts fit is read as a binary64 value. -/
theorem numberBytes_numeral (positive : Bool) (n : Numeral) (hfloat : n.frac ≠ [] ∨ n.exp.isSome = true)
    (hsig : n.significand ≤ u64Max) (hexp : ExponentFits (-(n.frac.length : Int)) n.exp)
    (hfit : PartsFit n.significand n.exponent) : NumberBytes positive n.bytes (∃ x, · = .float x) where
  head := by
    obtain ⟨d, ds, hwhole⟩ := List.exists_cons_of_ne_nil n.whole_ne
    exact ⟨d, ds ++ fractionBytes n.frac ++ exponentBytes n.exp, by rw [Numeral.bytes, hwhole]; rfl,
      n.whole_digits d (by rw [hwhole]; exact List.mem_cons_self)⟩
  reads := fun _ _ h hmore => by
    obtain ⟨w, hw⟩ := outcome_number_float positive n hfloat hsig hexp hfit h hmore
    exact ⟨_, ⟨w, rfl⟩, hw⟩
  skips := fun _ _ h hmore => outcome_skipNumber_numeral n h hmore

/-- The digits of an integer past 64 bits, or of a negative one past `-2^63`, are read as a
binary64 value while they stay under the overflow bound. -/
theorem numberBytes_repr (positive : Bool) {k : Nat} (hlim : (k : ℚ) ≤ 2 ^ 1024 - 6 * 2 ^ 970)
    (hk : u64Max < k ∨ positive = false ∧ 9223372036854775808 < k) :
    NumberBytes positive (Text.encodeUtf8 k.repr) (∃ x, · = .float x) where
  head := encodeUtf8_repr_cons k
  reads := fun c more h hmore => by
    by_cases hbig : u64Max < k
    · obtain ⟨w, hw⟩ := outcome_number_big positive hbig hlim h hmore
      exact ⟨_, ⟨w, rfl⟩, hw⟩
    · -- a negative integer within 64 bits but past `-2^63` is made a binary64 value at its end
      obtain ⟨rfl, hneg⟩ := hk.resolve_left hbig
      rw [outcome_number_repr false (Nat.le_of_not_lt hbig) h hmore, numberTail.finish,
        if_neg Bool.false_ne_true, if_neg (by omega)]
      exact ⟨_, ⟨_, rfl⟩, rfl⟩
  skips := fun _ _ h hmore => outcome_skipNumber_repr k h hmore

/-- An integer within 64 bits, signed or unsigned, is read as itself. -/
theorem writtenNumber_int {n : Int} (lo : -9223372036854775808 ≤ n) (hi : n ≤ (u64Max : Int)) :
    WrittenNumber (.int n) (· = .int n) := by
  refine ⟨_, _, encodeUtf8_compact_int n, encodeUtf8_repr_cons _, fun c more h hmore => ?_,
    fun _ _ h hmore => outcome_skipNumber_repr _ h hmore⟩
  refine ⟨_, ?_, outcome_number_repr _ (by unfold u64Max at hi ⊢; omega) h hmore⟩
  cases n with
  | ofNat m => rfl
  | negSucc k =>
    rw [numberTail.finish, decide_eq_false (by omega), if_neg Bool.false_ne_true, if_pos (by omega)]
    rfl

/-- Every integer past the 64-bit ranges and under the overflow bound is read as a binary64
value. -/
theorem writtenNumber_int_rounded {n : Int} (hlim : (n.natAbs : ℚ) ≤ 2 ^ 1024 - 6 * 2 ^ 970)
    (hout : ¬(-9223372036854775808 ≤ n ∧ n ≤ (u64Max : Int))) : WrittenNumber (.int n) (∃ x, · = .float x) := by
  refine ⟨_, _, encodeUtf8_compact_int n, numberBytes_repr _ hlim ?_⟩
  unfold u64Max at hout ⊢
  by_cases hbig : 18446744073709551615 < n.natAbs
  · exact .inl hbig
  · exact .inr ⟨decide_eq_false (by omega), by omega⟩

/-- Every finite float in the format is read as a binary64 value. -/
theorem writtenNumber_float {v : Binary64} (hv : v.InFormat) : WrittenNumber (.float v) (∃ x, · = .float x) := by
  obtain ⟨positive, n, htext, hfloat, hsig, hexp, hfit⟩ := compactText_numeral hv
  exact ⟨positive, n.bytes, by rw [compact]; exact htext, numberBytes_numeral positive n hfloat hsig hexp hfit⟩

end Written

end Json

end Warden
