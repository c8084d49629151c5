import Mathlib
import Warden.Number.Binary64

/-!
# Where a ratio is rounded, and when it overflows

`ofRat` scales `p / q` by the power of two that puts it between `2^52` and `2^53`
(`scaleExp_spec`), rounds the scaled value to an integer, and carries into the next exponent when
the rounding reaches `2^53`. What that gives is bounded here: a ratio below `2^1024 - 2^970`, half
a unit under the first power of two past the format, never overflows (`ofRat_isFinite`), and a
ratio in the normal range is rounded up by at most `2^-53` of itself (`ofRat_le`).

Together they bound the product of two rounded integers (`mul_ofRat_isFinite`), which is how the
reader builds a number written with a positive exponent: the significand and the power of ten are
each rounded, and then their product.
-/

namespace Warden

namespace Binary64

theorem powTwo_div (e : Int) : ((powTwo e).1 : ℚ) / (powTwo e).2 = 2 ^ e := by
  unfold powTwo
  split_ifs with h
  · obtain ⟨k, rfl⟩ := Int.eq_ofNat_of_zero_le h
    simp [Nat.pow_eq]
  · obtain ⟨k, hk⟩ : ∃ k : Nat, e = -(k : Int) := ⟨(-e).toNat, by omega⟩
    subst hk
    simp [Nat.pow_eq, zpow_neg]

theorem powTwo_pos (e : Int) : 0 < (powTwo e).1 ∧ 0 < (powTwo e).2 := by
  unfold powTwo
  split_ifs <;> exact ⟨by simp [Nat.pow_eq], by simp [Nat.pow_eq]⟩

/-- The exponent `ofRat` scales by: the one that brings `p / q` between `2^52` and `2^53`. -/
def scaleExp (p q : Nat) : Int :=
  let guess : Int := (Nat.log2 p : Int) - (Nat.log2 q : Int) - 52
  let reaches (e : Int) : Bool :=
    let (a, b) := powTwo e
    p * b ≥ Nat.pow 2 52 * q * a
  if reaches guess then guess else guess - 1

/-- The rounding of `p / q` at the exponent `e`: the significand rounded to an even one on a tie,
carried into the next exponent when it reaches `2^53`. -/
def roundAt (neg : Bool) (p q : Nat) (e : Int) : Binary64 :=
  let (a, b) := powTwo e
  let m := roundHalfEven (p * b) (q * a)
  let (m, e) := if m ≥ twoPow53 then (m / 2, e + 1) else (m, e)
  if e > maxExp then infinite neg else finite neg m e

theorem ofRat_eq_roundAt (neg : Bool) {p q : Nat} (hp : 0 < p) (hq : 0 < q) :
    ofRat neg p q = roundAt neg p q (max (scaleExp p q) minExp) := by
  unfold ofRat
  rw [if_neg (by simp; omega)]
  rfl

/-- Scaling test of `ofRat`: `p / q` reaches `2^52` at the exponent `e`. -/
theorem reaches_iff {p q : Nat} (hq : 0 < q) (e : Int) :
    p * (powTwo e).2 ≥ Nat.pow 2 52 * q * (powTwo e).1 ↔ (2 : ℚ) ^ (52 + e) ≤ p / q := by
  obtain ⟨ha, hb⟩ := powTwo_pos e
  have h2 : (2 : ℚ) ^ (52 + e) = 2 ^ 52 * (((powTwo e).1 : ℚ) / (powTwo e).2) := by
    rw [powTwo_div, zpow_add₀ two_ne_zero]
    norm_num
  rw [h2, ← mul_div_assoc, div_le_div_iff₀ (by exact_mod_cast hb) (by exact_mod_cast hq), ge_iff_le,
    ← Nat.cast_le (α := ℚ)]
  push_cast [Nat.pow_eq]
  constructor <;> intro h <;> linarith

/-- `2^log2 n ≤ n < 2^(log2 n + 1)`, over the rationals. -/
theorem log2_bounds {n : Nat} (hn : 0 < n) :
    (2 : ℚ) ^ (Nat.log2 n : Int) ≤ n ∧ (n : ℚ) < 2 ^ ((Nat.log2 n : Int) + 1) := by
  have hlo : 2 ^ Nat.log2 n ≤ n := Nat.log2_self_le hn.ne'
  have hhi : n < 2 ^ (Nat.log2 n + 1) := Nat.lt_log2_self
  constructor
  · rw [zpow_natCast]
    exact_mod_cast hlo
  · rw [show ((Nat.log2 n : Int) + 1) = ((Nat.log2 n + 1 : Nat) : Int) by push_cast; ring, zpow_natCast]
    exact_mod_cast hhi

/-- The scale of `ofRat` puts `p / q` between `2^52` and `2^53`. -/
theorem scaleExp_spec {p q : Nat} (hp : 0 < p) (hq : 0 < q) :
    (2 : ℚ) ^ (52 + scaleExp p q) ≤ p / q ∧ (p / q : ℚ) < 2 ^ (53 + scaleExp p q) := by
  obtain ⟨hpl, hph⟩ := log2_bounds hp
  obtain ⟨hql, hqh⟩ := log2_bounds hq
  have hqpos : (0 : ℚ) < q := by exact_mod_cast hq
  -- from the bit lengths, `p / q` lies strictly between `2^(lp - lq - 1)` and `2^(lp - lq + 1)`
  have hlow : (2 : ℚ) ^ ((Nat.log2 p : Int) - Nat.log2 q - 1) < p / q := by
    rw [lt_div_iff₀ hqpos, show (Nat.log2 p : Int) - Nat.log2 q - 1 = Nat.log2 p - (Nat.log2 q + 1) by ring,
      zpow_sub₀ two_ne_zero, div_mul_eq_mul_div, div_lt_iff₀ (by positivity)]
    nlinarith [zpow_pos (show (0 : ℚ) < 2 by norm_num) (Nat.log2 p : Int)]
  have hhigh : (p / q : ℚ) < 2 ^ ((Nat.log2 p : Int) - Nat.log2 q + 1) := by
    rw [div_lt_iff₀ hqpos, show (Nat.log2 p : Int) - Nat.log2 q + 1 = (Nat.log2 p + 1) - Nat.log2 q by ring,
      zpow_sub₀ two_ne_zero, div_mul_eq_mul_div, lt_div_iff₀ (by positivity)]
    nlinarith [zpow_pos (show (0 : ℚ) < 2 by norm_num) ((Nat.log2 p : Int) + 1)]
  unfold scaleExp
  dsimp only
  split
  · next h =>
    refine ⟨(reaches_iff hq _).1 (by simpa using h), ?_⟩
    rwa [show (53 : Int) + (Nat.log2 p - Nat.log2 q - 52) = Nat.log2 p - Nat.log2 q + 1 by ring]
  · next h =>
    have hnot := mt (reaches_iff hq _).2 (by simpa using h)
    rw [show (52 : Int) + (Nat.log2 p - Nat.log2 q - 52 - 1) = Nat.log2 p - Nat.log2 q - 1 by ring,
      show (53 : Int) + (Nat.log2 p - Nat.log2 q - 52 - 1) = 52 + (Nat.log2 p - Nat.log2 q - 52) by ring]
    exact ⟨hlow.le, lt_of_not_ge hnot⟩

/-- Rounding to the nearest integer is at most half a unit too high. -/
theorem roundHalfEven_le (n : Nat) {d : Nat} (hd : 0 < d) : 2 * roundHalfEven n d * d ≤ 2 * n + d := by
  have hdm := Nat.div_add_mod n d
  have hr := Nat.mod_lt n hd
  unfold roundHalfEven
  dsimp only
  generalize n / d = q at *
  generalize n % d = r at *
  split_ifs <;> nlinarith

/-- The significand rounded at the exponent `e` is at most half a unit above `p / q`. -/
theorem roundHalfEven_scaled_le (p : Nat) {q : Nat} (hq : 0 < q) (e : Int) :
    2 * (roundHalfEven (p * (powTwo e).2) (q * (powTwo e).1) : ℚ) * 2 ^ e ≤ 2 * (p / q) + 2 ^ e := by
  obtain ⟨ha, hb⟩ := powTwo_pos e
  have hround : ((2 * roundHalfEven (p * (powTwo e).2) (q * (powTwo e).1) * (q * (powTwo e).1) : Nat) : ℚ) ≤
      ((2 * (p * (powTwo e).2) + q * (powTwo e).1 : Nat) : ℚ) :=
    Nat.cast_le.2 (roundHalfEven_le _ (Nat.mul_pos hq ha))
  have hqb : (0 : ℚ) < q * (powTwo e).2 := by positivity
  rw [← powTwo_div e]
  push_cast at hround
  rw [← sub_nonneg] at hround ⊢
  have key : 2 * (p / q : ℚ) + (powTwo e).1 / (powTwo e).2 -
      2 * (roundHalfEven (p * (powTwo e).2) (q * (powTwo e).1) : ℚ) * ((powTwo e).1 / (powTwo e).2) =
      (2 * (p * (powTwo e).2 : ℚ) + q * (powTwo e).1 -
        2 * (roundHalfEven (p * (powTwo e).2) (q * (powTwo e).1) : ℚ) * (q * (powTwo e).1)) / (q * (powTwo e).2) := by
    field_simp
  rw [key]
  exact div_nonneg hround hqb.le

/-- Rounding at an exponent within range gives a finite value, unless the significand carries
past the greatest exponent, which needs `p / q` within half a unit of `2^1024`. -/
theorem roundAt_isFinite (neg : Bool) {p q : Nat} (hq : 0 < q) {e : Int} (he : e ≤ maxExp)
    (htop : e = maxExp → (p / q : ℚ) < 2 ^ 1024 - 2 ^ 970) : (roundAt neg p q e).isFinite = true := by
  have hround := roundHalfEven_scaled_le p hq e
  unfold roundAt
  dsimp only
  split
  · -- a carry, which the greatest exponent cannot take
    next hcarry =>
    rw [if_neg]
    · rfl
    intro hgt
    have htop' : e = 971 := by simp only [maxExp] at he hgt; omega
    have hlt := htop htop'
    subst htop'
    -- in units of `2^971`, the rounded significand stays below `2^53`
    have hm : (2 : ℚ) ^ 53 ≤ roundHalfEven (p * (powTwo 971).2) (q * (powTwo 971).1) := by
      exact_mod_cast hcarry
    have hX : (0 : ℚ) < 2 ^ (971 : Int) := zpow_pos (by norm_num) _
    have h1024 : (2 : ℚ) ^ 1024 = 2 ^ 53 * 2 ^ (971 : Int) := by
      rw [← zpow_natCast, ← zpow_natCast, ← zpow_add₀ two_ne_zero]
      rfl
    have h970 : (2 : ℚ) ^ 970 = 2 ^ (971 : Int) / 2 := by
      rw [← zpow_natCast, eq_div_iff two_ne_zero, ← zpow_add_one₀ two_ne_zero]
      rfl
    rw [h1024, h970] at hlt
    have hmX := mul_le_mul_of_nonneg_right hm hX.le
    generalize (2 : ℚ) ^ (971 : Int) = X at *
    generalize ((roundHalfEven (p * (powTwo 971).2) (q * (powTwo 971).1) : Nat) : ℚ) = m at *
    linarith
  · next hno =>
    rw [if_neg (by omega)]
    rfl

/-- What rounding at the exponent `e` gives is at most half a unit `2^e` above `p / q`. -/
theorem roundAt_le (neg : Bool) {p q : Nat} (hq : 0 < q) (e : Int) {m e' : _}
    (h : roundAt neg p q e = finite neg m e') : (m : ℚ) * 2 ^ e' ≤ p / q + 2 ^ e / 2 := by
  have hround := roundHalfEven_scaled_le p hq e
  unfold roundAt at h
  dsimp only at h
  split at h
  · -- the carry halves the significand into the next exponent
    split at h
    · cases h
    · cases h
      have hhalf : ((roundHalfEven (p * (powTwo e).2) (q * (powTwo e).1) / 2 : Nat) : ℚ) * 2 ≤
          roundHalfEven (p * (powTwo e).2) (q * (powTwo e).1) := by
        exact_mod_cast Nat.div_mul_le_self _ 2
      rw [zpow_add₀ two_ne_zero, zpow_one]
      have h2e : (0 : ℚ) < 2 ^ e := zpow_pos (by norm_num) e
      nlinarith
  · split at h
    · cases h
    · cases h
      linarith

/-- `ofRat` overflows only within half a unit of `2^1024`: any smaller ratio rounds to a finite
value. -/
theorem ofRat_isFinite (neg : Bool) (p : Nat) {q : Nat} (hq : 0 < q)
    (hlt : (p / q : ℚ) < 2 ^ 1024 - 2 ^ 970) : (ofRat neg p q).isFinite = true := by
  rcases Nat.eq_zero_or_pos p with rfl | hp
  · unfold ofRat
    rw [if_pos (by simp)]
    rfl
  rw [ofRat_eq_roundAt neg hp hq]
  obtain ⟨hlo, -⟩ := scaleExp_spec hp hq
  -- the scale is at most the greatest exponent: `2^(52 + e) ≤ p / q < 2^1024`
  have he : scaleExp p q ≤ maxExp := by
    by_contra hgt
    have hpow : (2 : ℚ) ^ (1024 : Int) ≤ 2 ^ (52 + scaleExp p q) :=
      zpow_le_zpow_right₀ (by norm_num) (by simp only [maxExp] at hgt; omega)
    have h970 : (0 : ℚ) < 2 ^ 970 := by positivity
    rw [show (2 : ℚ) ^ (1024 : Int) = 2 ^ 1024 from zpow_natCast 2 1024] at hpow
    generalize (2 : ℚ) ^ 1024 = X at *
    generalize (2 : ℚ) ^ 970 = Y at *
    generalize (2 : ℚ) ^ (52 + scaleExp p q) = Z at *
    linarith
  exact roundAt_isFinite neg hq (max_le he (by decide)) fun htop => hlt

/-- A ratio in the normal range is rounded at most `2^-53` of itself too high. -/
theorem ofRat_le (neg : Bool) {p q : Nat} (hp : 0 < p) (hq : 0 < q) (hnorm : (2 : ℚ) ^ (-1022 : Int) ≤ p / q)
    {m : Nat} {e : Int} (h : ofRat neg p q = finite neg m e) :
    (m : ℚ) * 2 ^ e ≤ p / q * (1 + 2 ^ (-53 : Int)) := by
  rw [ofRat_eq_roundAt neg hp hq] at h
  obtain ⟨hlo, hhi⟩ := scaleExp_spec hp hq
  -- a normal ratio is scaled at an exponent no smaller than the least
  have hnormal : minExp ≤ scaleExp p q := by
    by_contra hsmall
    have hpow : (2 : ℚ) ^ (53 + scaleExp p q) ≤ 2 ^ (-1022 : Int) :=
      zpow_le_zpow_right₀ (by norm_num) (by simp only [minExp] at hsmall; omega)
    linarith
  rw [max_eq_left hnormal] at h
  have hle := roundAt_le neg hq _ h
  -- half a unit at the scale is `2^-53` of the scale's lower bound
  have hhalf : (2 : ℚ) ^ scaleExp p q / 2 = 2 ^ (52 + scaleExp p q) * 2 ^ (-53 : Int) := by
    rw [← zpow_add₀ two_ne_zero, show 52 + scaleExp p q + -53 = scaleExp p q - 1 by ring,
      zpow_sub_one₀ two_ne_zero]
    ring
  have hsmall : (0 : ℚ) ≤ 2 ^ (-53 : Int) := by positivity
  have := mul_le_mul_of_nonneg_right hlo hsmall
  rw [hhalf] at hle
  generalize (2 : ℚ) ^ (-53 : Int) = u at *
  nlinarith

/-- A finite rounding keeps the sign asked for. -/
theorem roundAt_eq_finite {neg : Bool} {p q : Nat} {e : Int} (h : (roundAt neg p q e).isFinite = true) :
    ∃ m e', roundAt neg p q e = finite neg m e' := by
  unfold roundAt at h ⊢
  dsimp only at h ⊢
  split_ifs at h ⊢
  · cases h
  · exact ⟨_, _, rfl⟩
  · cases h
  · exact ⟨_, _, rfl⟩

theorem ofRat_eq_finite {neg : Bool} {p q : Nat} (hp : 0 < p) (hq : 0 < q) (h : (ofRat neg p q).isFinite = true) :
    ∃ m e, ofRat neg p q = finite neg m e := by
  rw [ofRat_eq_roundAt neg hp hq] at h ⊢
  exact roundAt_eq_finite h

/-- The format's range ends below `10^309`. The powers are split so that none is evaluated on the
way: only the kernel compares the two numbers. -/
theorem two_pow_lt_ten_pow : (2 : ℚ) ^ 1024 < 10 ^ 309 := by
  have h : ((2 ^ 32) ^ 32 : ℕ) < 10 ^ 9 * (10 ^ 10) ^ 30 := by decide +kernel
  have hq : ((2 : ℚ) ^ 32) ^ 32 < 10 ^ 9 * (10 ^ 10) ^ 30 := by exact_mod_cast h
  rwa [← pow_mul, ← pow_mul, ← pow_add] at hq

/-- Up to `(2^54 - 2) · 2^970` a value is more than half a unit below `2^1024`. -/
theorem lt_overflow {z : ℚ} (hz : z ≤ (2 ^ 54 - 2) * 2 ^ 970) : z < 2 ^ 1024 - 2 ^ 970 := by
  have hX : (0 : ℚ) < 2 ^ 970 := by positivity
  rw [show (2 : ℚ) ^ 1024 = 2 ^ 54 * 2 ^ 970 by rw [← pow_add]]
  generalize (2 : ℚ) ^ 970 = X at *
  nlinarith

/-- The product of two positive integers, each rounded, is finite when their exact product leaves
room for the two roundings and the product's own: at most `2^1024 - 6 · 2^970`. -/
theorem mul_ofRat_isFinite {x y : Nat} (hx : 0 < x) (hy : 0 < y)
    (hxy : (x : ℚ) * y ≤ 2 ^ 1024 - 6 * 2 ^ 970) : ((ofRat false x 1).mul (ofRat false y 1)).isFinite = true := by
  have hX : (0 : ℚ) < 2 ^ 970 := by positivity
  have h1024 : (2 : ℚ) ^ 1024 = 2 ^ 54 * 2 ^ 970 := by rw [← pow_add]
  rw [h1024] at hxy
  have hx1 : (1 : ℚ) ≤ x := by exact_mod_cast hx
  have hy1 : (1 : ℚ) ≤ y := by exact_mod_cast hy
  have hnorm : (2 : ℚ) ^ (-1022 : Int) ≤ 1 := zpow_le_one_of_nonpos₀ (by norm_num) (by norm_num)
  -- each factor is below the product, so each rounds to a finite value
  have hfin : ∀ z : Nat, 0 < z → (z : ℚ) ≤ x * y → ∃ m e, ofRat false z 1 = finite false m e ∧
      (m : ℚ) * 2 ^ e ≤ z * (1 + 2 ^ (-53 : Int)) := by
    intro z hz hzle
    have hbelow : ((z : Nat) : ℚ) / ((1 : Nat) : ℚ) < 2 ^ 1024 - 2 ^ 970 := by
      rw [Nat.cast_one, div_one]
      refine lt_overflow ?_
      clear h1024
      generalize (2 : ℚ) ^ 970 = X at *
      nlinarith
    obtain ⟨m, e, he⟩ := ofRat_eq_finite hz Nat.one_pos (ofRat_isFinite false z Nat.one_pos hbelow)
    refine ⟨m, e, he, ?_⟩
    have := ofRat_le false hz Nat.one_pos (by rw [Nat.cast_one, div_one]; exact hnorm.trans (by exact_mod_cast hz)) he
    rwa [Nat.cast_one, div_one] at this
  obtain ⟨m₁, e₁, h₁, hb₁⟩ := hfin x hx (le_mul_of_one_le_right (by positivity) hy1)
  obtain ⟨m₂, e₂, h₂, hb₂⟩ := hfin y hy (le_mul_of_one_le_left (by positivity) hx1)
  rw [h₁, h₂, mul]
  dsimp only
  obtain ⟨ha, hb⟩ := powTwo_pos (e₁ + e₂)
  refine ofRat_isFinite _ _ hb (lt_overflow ?_)
  -- the exact product of the rounded factors, against the threshold
  have hprod : ((m₁ * m₂ * (powTwo (e₁ + e₂)).1 : Nat) : ℚ) / (powTwo (e₁ + e₂)).2 =
      ((m₁ : ℚ) * 2 ^ e₁) * ((m₂ : ℚ) * 2 ^ e₂) := by
    push_cast
    rw [mul_div_assoc, powTwo_div, zpow_add₀ two_ne_zero]
    ring
  have hu : (2 : ℚ) ^ 53 * 2 ^ (-53 : Int) = 1 := by
    rw [← zpow_natCast, ← zpow_add₀ two_ne_zero]
    rfl
  have hu0 : (0 : ℚ) ≤ 2 ^ (-53 : Int) := by positivity
  have hexpand : ((2 : ℚ) ^ 54 - 6) * (1 + 2 ^ (-53 : Int)) ^ 2 =
      2 ^ 54 - 2 - 10 * 2 ^ (-53 : Int) - 6 * (2 ^ (-53 : Int)) ^ 2 := by
    linear_combination (4 + 2 * (2 : ℚ) ^ (-53 : Int)) * hu
  have hm₂ : (0 : ℚ) ≤ m₂ * 2 ^ e₂ := mul_nonneg (Nat.cast_nonneg _) (zpow_nonneg (by norm_num) _)
  have hstep := mul_le_mul hb₁ hb₂ hm₂ (mul_nonneg (Nat.cast_nonneg _) (by linarith))
  rw [hprod]
  clear h1024 hfin
  generalize (2 : ℚ) ^ (-53 : Int) = u at *
  generalize (2 : ℚ) ^ 970 = X at *
  calc (m₁ : ℚ) * 2 ^ e₁ * (m₂ * 2 ^ e₂) ≤ x * (1 + u) * (y * (1 + u)) := hstep
    _ = (x * y) * (1 + u) ^ 2 := by ring
    _ ≤ ((2 ^ 54 - 6) * X) * (1 + u) ^ 2 := mul_le_mul_of_nonneg_right (by linarith) (sq_nonneg _)
    _ = X * (2 ^ 54 - 2 - 10 * u - 6 * u ^ 2) := by rw [mul_comm _ X, mul_assoc, hexpand]
    _ ≤ (2 ^ 54 - 2) * X := by nlinarith [mul_nonneg hX.le hu0, mul_nonneg (mul_nonneg hX.le hu0) hu0]

end Binary64

end Warden
