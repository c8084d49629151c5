import Warden.Proofs.Rounding
import Warden.Number.Shortest

/-!
# Seventeen digits suffice

`shortestDigits` looks for the fewest significant digits that land in a value's rounding
interval: for one digit, then two, and so on, it takes the two neighbours of the value on the
decimal grid of that many digits and tests them against the interval. The search always succeeds
by seventeen digits, and what it finds is a positive number of at most seventeen digits, read as a
decimal within half a unit of the value (`digitsOf_spec`).

The argument is the usual one, made on exact rationals. `decimalExponent` finds the power of ten
at or below the value (`decimalExponent_spec`), so on the grid of seventeen digits a step is at
most the value over `10^16`, which for a significand below `2^53` is less than a unit. The nearer
neighbour is within half a step (`grid_neighbours`), hence strictly inside the interval, even at
the start of a binade, where the interval reaches only a quarter unit down
(`roundingInterval_spec`).

The search's local definitions are mirrored by top-level ones (`insideTest`, `searchStep`) that
unfold to the same terms, so that each round can be reasoned about on its own (`search_succ`).
-/

namespace Warden

namespace Binary64

/-! ## The power of ten below a ratio -/

/-- A positive number of `L` decimal digits lies in `[10^(L-1), 10^L)`. -/
theorem toDigits_bounds {n : Nat} (hn : 0 < n) :
    (10 : ℚ) ^ (((Nat.toDigits 10 n).length : Int) - 1) ≤ n ∧
      (n : ℚ) < 10 ^ ((Nat.toDigits 10 n).length : Int) := by
  have hpos : 0 < (Nat.toDigits 10 n).length := Nat.length_toDigits_pos
  have hlt : n < 10 ^ (Nat.toDigits 10 n).length := (Nat.length_toDigits_le_iff (by decide) hpos).1 le_rfl
  have hge : 10 ^ ((Nat.toDigits 10 n).length - 1) ≤ n := by
    by_cases h1 : (Nat.toDigits 10 n).length = 1
    · rw [h1]
      exact hn
    · by_contra h
      have := (Nat.length_toDigits_le_iff (b := 10) (n := n) (by decide) (show 0 < (Nat.toDigits 10 n).length - 1 by omega)).2
        (by omega)
      omega
  constructor
  · rw [show ((Nat.toDigits 10 n).length : Int) - 1 = (((Nat.toDigits 10 n).length - 1 : Nat) : Int) by omega,
      zpow_natCast]
    exact_mod_cast hge
  · rw [zpow_natCast]
    exact_mod_cast hlt

/-- The test of `decimalExponent`: `10^k ≤ p / q`, decided on naturals. -/
def tenPowAtMost (p q : Nat) (k : Int) : Bool :=
  if k ≥ 0 then Nat.pow 10 k.toNat * q ≤ p else q ≤ p * Nat.pow 10 (-k).toNat

theorem decimalExponent_eq (p q : Nat) : decimalExponent p q =
    let g : Int := ((Nat.toDigits 10 p).length : Int) - ((Nat.toDigits 10 q).length : Int)
    if tenPowAtMost p q g then (if tenPowAtMost p q (g + 1) then g + 1 else g)
    else if tenPowAtMost p q (g - 1) then g - 1 else g - 2 := rfl

theorem tenPowAtMost_iff (p : Nat) {q : Nat} (hq : 0 < q) (k : Int) :
    tenPowAtMost p q k = true ↔ (10 : ℚ) ^ k ≤ p / q := by
  have hq' : (0 : ℚ) < q := by exact_mod_cast hq
  unfold tenPowAtMost
  split_ifs with hk
  · obtain ⟨j, rfl⟩ := Int.eq_ofNat_of_zero_le hk
    rw [decide_eq_true_iff, le_div_iff₀ hq', Int.toNat_natCast, zpow_natCast, ← Nat.cast_le (α := ℚ)]
    push_cast [Nat.pow_eq]
    rfl
  · obtain ⟨j, rfl⟩ : ∃ j : Nat, k = -(j : Int) := ⟨(-k).toNat, by omega⟩
    rw [decide_eq_true_iff, neg_neg, Int.toNat_natCast, zpow_neg, zpow_natCast, ← one_div,
      div_le_div_iff₀ (by positivity) hq', one_mul, ← Nat.cast_le (α := ℚ)]
    push_cast [Nat.pow_eq]
    rfl

/-- `decimalExponent` finds the power of ten at or below a ratio: `10^k ≤ p / q < 10^(k+1)`. -/
theorem decimalExponent_spec {p q : Nat} (hp : 0 < p) (hq : 0 < q) :
    (10 : ℚ) ^ decimalExponent p q ≤ p / q ∧ (p / q : ℚ) < 10 ^ (decimalExponent p q + 1) := by
  obtain ⟨hpl, hph⟩ := toDigits_bounds hp
  obtain ⟨hql, hqh⟩ := toDigits_bounds hq
  have hq' : (0 : ℚ) < q := by exact_mod_cast hq
  rw [decimalExponent_eq]
  generalize ((Nat.toDigits 10 p).length : Int) = lp at hpl hph
  generalize ((Nat.toDigits 10 q).length : Int) = lq at hql hqh
  -- from the digit counts, `p / q` lies strictly between `10^(g - 1)` and `10^(g + 1)`
  have hlow : (10 : ℚ) ^ (lp - lq - 1) < p / q := by
    rw [lt_div_iff₀ hq']
    calc (10 : ℚ) ^ (lp - lq - 1) * q < 10 ^ (lp - lq - 1) * 10 ^ lq :=
          mul_lt_mul_of_pos_left hqh (by positivity)
      _ = 10 ^ (lp - 1) := by rw [← zpow_add₀ (by norm_num)]; congr 1; ring
      _ ≤ p := hpl
  have hhigh : (p / q : ℚ) < 10 ^ (lp - lq + 1) := by
    rw [div_lt_iff₀ hq']
    calc (p : ℚ) < 10 ^ lp := hph
      _ = 10 ^ (lp - lq + 1) * 10 ^ (lq - 1) := by rw [← zpow_add₀ (by norm_num)]; congr 1; ring
      _ ≤ 10 ^ (lp - lq + 1) * q := mul_le_mul_of_nonneg_left hql (by positivity)
  have hiff := tenPowAtMost_iff p hq
  dsimp only
  split_ifs with h1 h2 h3
  · exact absurd ((hiff _).1 h2) (not_le.2 hhigh)
  · exact ⟨(hiff _).1 h1, lt_of_not_ge fun h => h2 ((hiff _).2 h)⟩
  · exact ⟨(hiff _).1 h3, by rw [sub_add_cancel]; exact lt_of_not_ge fun h => h1 ((hiff _).2 h)⟩
  · exact absurd ((hiff _).2 hlow.le) h3

/-! ## The search -/

/-- `v / 10^x` for `v = p / q`, as the numerator and denominator `shortestDigits` divides. -/
def scaledPair (p q : Nat) (x : Int) : Nat × Nat :=
  if x ≥ 0 then (p, q * Nat.pow 10 x.toNat) else (p * Nat.pow 10 (-x).toNat, q)

/-- `d · 10^x` as a numerator and denominator. -/
def decimalPair (d : Nat) (x : Int) : Nat × Nat :=
  if x ≥ 0 then (d * Nat.pow 10 x.toNat, 1) else (d, Nat.pow 10 (-x).toNat)

theorem scaledPair_div (p : Nat) {q : Nat} (hq : 0 < q) (x : Int) :
    0 < (scaledPair p q x).2 ∧ ((scaledPair p q x).1 : ℚ) / (scaledPair p q x).2 = p / q * 10 ^ (-x) := by
  unfold scaledPair
  split_ifs with hx
  · obtain ⟨j, rfl⟩ := Int.eq_ofNat_of_zero_le hx
    refine ⟨Nat.mul_pos hq (by simp [Nat.pow_eq]), ?_⟩
    simp only [Int.toNat_natCast, Nat.pow_eq, zpow_neg, zpow_natCast]
    push_cast
    field_simp
  · obtain ⟨j, rfl⟩ : ∃ j : Nat, x = -(j : Int) := ⟨(-x).toNat, by omega⟩
    refine ⟨hq, ?_⟩
    simp only [neg_neg, Int.toNat_natCast, Nat.pow_eq, zpow_natCast]
    push_cast
    ring

theorem decimalPair_div (d : Nat) (x : Int) :
    0 < (decimalPair d x).2 ∧ ((decimalPair d x).1 : ℚ) / (decimalPair d x).2 = d * 10 ^ x := by
  unfold decimalPair
  split_ifs with hx
  · obtain ⟨j, rfl⟩ := Int.eq_ofNat_of_zero_le hx
    refine ⟨Nat.one_pos, ?_⟩
    simp [Nat.pow_eq]
  · obtain ⟨j, rfl⟩ : ∃ j : Nat, x = -(j : Int) := ⟨(-x).toNat, by omega⟩
    refine ⟨by simp [Nat.pow_eq], ?_⟩
    simp only [neg_neg, Int.toNat_natCast, Nat.pow_eq, zpow_neg, zpow_natCast]
    push_cast
    ring

/-- The test of `shortestDigits` that `d · 10^x` lies in the interval `[lo, hi] / den`, its ends
included when `closed`. -/
def insideTest (lo hi den : Nat) (closed : Bool) (d : Nat) (x : Int) : Bool :=
  let (num, dnm) := decimalPair d x
  let aboveLow := if closed then num * den ≥ lo * dnm else num * den > lo * dnm
  let belowHigh := if closed then num * den ≤ hi * dnm else num * den < hi * dnm
  aboveLow && belowHigh

/-- One round of the search of `shortestDigits`, at `k` significant digits: the neighbour it
takes, if any. -/
def searchStep (p q : Nat) (top : Int) (inside : Nat → Int → Bool) (k : Nat) : Option (Nat × Int) :=
  let x : Int := top - k + 1
  let (num, dnm) := scaledPair p q x
  let down := num / dnm
  let up := if num % dnm = 0 then down else down + 1
  let dIn := down > 0 && inside down x
  let uIn := inside up x
  if dIn && uIn then
    let twice := 2 * num
    if twice < (down + up) * dnm then some (down, x)
    else if twice > (down + up) * dnm then some (up, x)
    else if down % 2 = 0 then some (down, x) else some (up, x)
  else if dIn then some (down, x)
  else if uIn then some (up, x)
  else none

theorem shortestDigits_eq (p q lo hi den : Nat) (closed : Bool) :
    shortestDigits p q lo hi den closed =
      trimZeros (shortestDigits.search p q (decimalExponent p q) (insideTest lo hi den closed) 1 17).1
        (shortestDigits.search p q (decimalExponent p q) (insideTest lo hi den closed) 1 17).2 := by
  rw [shortestDigits]
  rfl

theorem search_succ (p q : Nat) (top : Int) (inside : Nat → Int → Bool) (k fuel : Nat) :
    shortestDigits.search p q top inside k (fuel + 1) =
      (searchStep p q top inside k).getD (shortestDigits.search p q top inside (k + 1) fuel) := by
  rw [shortestDigits.search, searchStep, scaledPair]
  -- both sides destructure the same scaled pair; name it before splitting on the tests
  generalize (if top - k + 1 ≥ 0 then _ else _ : Nat × Nat) = r
  obtain ⟨num, dnm⟩ := r
  dsimp only
  split_ifs <;> rfl

/-- A search that reaches a round that takes a neighbour answers with the neighbour of its first
such round. -/
theorem search_eq_step (p q : Nat) (top : Int) (inside : Nat → Int → Bool) :
    ∀ fuel k j, k ≤ j → j < k + fuel → (searchStep p q top inside j).isSome →
      ∃ i r, k ≤ i ∧ i ≤ j ∧ searchStep p q top inside i = some r ∧
        shortestDigits.search p q top inside k fuel = r := by
  intro fuel
  induction fuel with
  | zero => intro k j hkj hj; omega
  | succ fuel ih =>
    intro k j hkj hj hsome
    rw [search_succ]
    cases hk : searchStep p q top inside k with
    | some r => exact ⟨k, r, le_rfl, hkj, hk, rfl⟩
    | none =>
      -- the round at `k` passes, so the one that takes a neighbour comes later
      have hlt : k < j := by
        rcases Nat.eq_or_lt_of_le hkj with rfl | h
        · rw [hk] at hsome; cases hsome
        · exact h
      obtain ⟨i, r, hki, hij, hi, hrun⟩ := ih (k + 1) j hlt (by omega) hsome
      exact ⟨i, r, by omega, hij, hi, hrun⟩

/-- The two neighbours of `num / dnm` on the integers: `down ≤ s ≤ up ≤ down + 1`, and `up` is
below `s + 1`. -/
theorem grid_neighbours (num : Nat) {dnm : Nat} (hd : 0 < dnm) :
    ((num / dnm : Nat) : ℚ) ≤ num / dnm ∧
      (num / dnm : ℚ) ≤ ((if num % dnm = 0 then num / dnm else num / dnm + 1 : Nat) : ℚ) ∧
      ((if num % dnm = 0 then num / dnm else num / dnm + 1 : Nat) : ℚ) ≤ (num / dnm : Nat) + 1 ∧
      ((if num % dnm = 0 then num / dnm else num / dnm + 1 : Nat) : ℚ) < num / dnm + 1 := by
  have hdm := Nat.div_add_mod num dnm
  have hr := Nat.mod_lt num hd
  have hd' : (0 : ℚ) < dnm := by exact_mod_cast hd
  -- `s = down + r / dnm` with the remainder `r` below `dnm`
  have hs : (num / dnm : ℚ) = (num / dnm : Nat) + ((num % dnm : Nat) : ℚ) / dnm := by
    have hnum : (num : ℚ) = dnm * (num / dnm : Nat) + (num % dnm : Nat) := by exact_mod_cast hdm.symm
    rw [hnum]
    field_simp
  have hfrac : ((num % dnm : Nat) : ℚ) / dnm < 1 := by rw [div_lt_one hd']; exact_mod_cast hr
  have hfrac0 : 0 ≤ ((num % dnm : Nat) : ℚ) / dnm := by positivity
  split_ifs with h0
  · rw [h0, Nat.cast_zero, zero_div, add_zero] at hs
    refine ⟨by linarith, by linarith, by linarith, by linarith⟩
  · have hpos : 0 < ((num % dnm : Nat) : ℚ) / dnm := div_pos (by exact_mod_cast Nat.pos_of_ne_zero h0) hd'
    push_cast
    refine ⟨by linarith, by linarith, by linarith, by linarith⟩

theorem insideTest_sound {lo hi den : Nat} (hden : 0 < den) {closed : Bool} {d : Nat} {x : Int}
    (h : insideTest lo hi den closed d x = true) : (lo : ℚ) / den ≤ d * 10 ^ x ∧ (d : ℚ) * 10 ^ x ≤ hi / den := by
  obtain ⟨hpos, hval⟩ := decimalPair_div d x
  unfold insideTest at h
  generalize decimalPair d x = r at h hpos hval
  obtain ⟨num, dnm⟩ := r
  dsimp only at h hpos hval
  have hden' : (0 : ℚ) < den := by exact_mod_cast hden
  have hdnm : (0 : ℚ) < dnm := by exact_mod_cast hpos
  rw [← hval, div_le_div_iff₀ hden' hdnm, div_le_div_iff₀ hdnm hden']
  cases closed <;> simp only [Bool.and_eq_true, decide_eq_true_eq, Bool.false_eq_true, if_false, if_true] at h <;>
    exact ⟨by exact_mod_cast (by omega : lo * dnm ≤ num * den), by exact_mod_cast (by omega : num * den ≤ hi * dnm)⟩

theorem insideTest_of_lt {lo hi den : Nat} (hden : 0 < den) (closed : Bool) {d : Nat} {x : Int}
    (hlo : (lo : ℚ) / den < d * 10 ^ x) (hhi : (d : ℚ) * 10 ^ x < hi / den) : insideTest lo hi den closed d x = true := by
  obtain ⟨hpos, hval⟩ := decimalPair_div d x
  unfold insideTest
  generalize decimalPair d x = r at hpos hval
  obtain ⟨num, dnm⟩ := r
  dsimp only at hpos hval ⊢
  have hden' : (0 : ℚ) < den := by exact_mod_cast hden
  have hdnm : (0 : ℚ) < dnm := by exact_mod_cast hpos
  rw [← hval, div_lt_div_iff₀ hden' hdnm] at hlo
  rw [← hval, div_lt_div_iff₀ hdnm hden'] at hhi
  have hlo' : lo * dnm < num * den := by exact_mod_cast hlo
  have hhi' : num * den < hi * dnm := by exact_mod_cast hhi
  cases closed <;> simp only [Bool.and_eq_true, decide_eq_true_eq, Bool.false_eq_true, if_false, if_true] <;> omega

/-- A round that takes a neighbour takes one inside the interval, on its own grid, and below the
scaled value plus one. -/
theorem searchStep_some {p q : Nat} {top : Int} {inside : Nat → Int → Bool} {k d : Nat} {x : Int}
    (hq : 0 < q) (h : searchStep p q top inside k = some (d, x)) :
    x = top - k + 1 ∧ inside d x = true ∧ (d : ℚ) < p / q * 10 ^ (-x) + 1 := by
  obtain ⟨hpos, hval⟩ := scaledPair_div p hq (top - k + 1)
  have hgrid := grid_neighbours (scaledPair p q (top - k + 1)).1 hpos
  rw [hval] at hgrid
  clear hval hpos
  unfold searchStep at h
  dsimp only at h
  generalize scaledPair p q (top - k + 1) = r at h hgrid
  obtain ⟨num, dnm⟩ := r
  dsimp only at h hgrid
  obtain ⟨hdown, -, -, hup⟩ := hgrid
  -- every round that answers takes the lower or the upper neighbour after testing it
  have key : x = top - k + 1 ∧ ((d = num / dnm ∧ inside (num / dnm) x = true) ∨
      (d = (if num % dnm = 0 then num / dnm else num / dnm + 1) ∧
        inside (if num % dnm = 0 then num / dnm else num / dnm + 1) x = true)) := by
    clear hdown hup
    split_ifs at h <;> simp only [Option.some.injEq, Prod.mk.injEq] at h <;>
      obtain ⟨rfl, rfl⟩ := h <;> simp_all
  obtain ⟨rfl, ⟨rfl, hin⟩ | ⟨rfl, hin⟩⟩ := key
  · exact ⟨rfl, hin, by linarith⟩
  · exact ⟨rfl, hin, by linarith⟩

/-- A round takes a neighbour when its grid is fine enough: half a step on either side of the
value stays strictly inside the interval, whose lower end is not negative. -/
theorem searchStep_isSome {p q lo hi den : Nat} (hq : 0 < q) (hden : 0 < den) (closed : Bool) (top : Int) (k : Nat)
    (hlo0 : 0 ≤ (lo : ℚ) / den) (hlo : (lo : ℚ) / den < p / q - 10 ^ (top - k + 1) / 2)
    (hhi : (p / q : ℚ) + 10 ^ (top - k + 1) / 2 < hi / den) :
    (searchStep p q top (insideTest lo hi den closed) k).isSome = true := by
  obtain ⟨hpos, hval⟩ := scaledPair_div p hq (top - k + 1)
  have hgrid := grid_neighbours (scaledPair p q (top - k + 1)).1 hpos
  rw [hval] at hgrid
  have h10 : (0 : ℚ) < 10 ^ (top - k + 1) := by positivity
  -- a grid point within half a step of the scaled value is inside, and positive
  have hnear : ∀ d : Nat, |(d : ℚ) - p / q * 10 ^ (-(top - k + 1))| ≤ 1 / 2 →
      insideTest lo hi den closed d (top - k + 1) = true ∧ 0 < d := by
    intro d hd
    have hmul : (d : ℚ) * 10 ^ (top - k + 1) - p / q =
        ((d : ℚ) - p / q * 10 ^ (-(top - k + 1))) * 10 ^ (top - k + 1) := by
      rw [sub_mul, mul_assoc, ← zpow_add₀ (by norm_num), neg_add_cancel, zpow_zero, mul_one]
    have habs : |(d : ℚ) * 10 ^ (top - k + 1) - p / q| ≤ 10 ^ (top - k + 1) / 2 := by
      rw [hmul, abs_mul, abs_of_pos h10]
      linarith [mul_le_mul_of_nonneg_right hd h10.le]
    obtain ⟨h1, h2⟩ := abs_le.1 habs
    refine ⟨insideTest_of_lt hden closed (by linarith) (by linarith), Nat.pos_of_ne_zero fun h0 => ?_⟩
    rw [h0, Nat.cast_zero, zero_mul] at h1
    linarith
  unfold searchStep
  dsimp only
  generalize scaledPair p q (top - k + 1) = r at hgrid ⊢
  obtain ⟨num, dnm⟩ := r
  dsimp only at hgrid ⊢
  obtain ⟨hdown, hup0, hup1, -⟩ := hgrid
  -- the nearer neighbour is within half a step: the lower one, or else the upper one
  have hin : (0 < num / dnm ∧ insideTest lo hi den closed (num / dnm) (top - k + 1) = true) ∨
      insideTest lo hi den closed (if num % dnm = 0 then num / dnm else num / dnm + 1) (top - k + 1) = true := by
    by_cases hhalf : (p / q : ℚ) * 10 ^ (-(top - k + 1)) - (num / dnm : Nat) ≤ 1 / 2
    · obtain ⟨h1, h2⟩ := hnear (num / dnm) (abs_le.2 ⟨by linarith, by linarith⟩)
      exact .inl ⟨h2, h1⟩
    · exact .inr (hnear (if num % dnm = 0 then num / dnm else num / dnm + 1)
        (abs_le.2 ⟨by linarith, by linarith⟩)).1
  split_ifs <;> simp_all

/-- The rounding interval of `m · 2^e` over a common denominator: half a unit above the value,
and half a unit below it, or a quarter of a unit at the start of a binade. -/
theorem roundingInterval_spec {m : Nat} (hm : 0 < m) (e : Int) :
    ∃ lo hi den closed, ∃ g : Nat, roundingInterval m e = (lo, hi, den, closed) ∧ 0 < den ∧
      (g = 2 ∨ g = 1 ∧ m = Nat.pow 2 52) ∧
      (lo : ℚ) / den = m * 2 ^ e - g * 2 ^ e / 4 ∧ (hi : ℚ) / den = m * 2 ^ e + 2 ^ e / 2 := by
  obtain ⟨ha, hb⟩ := powTwo_pos (e - 2)
  have h2 := powTwo_div (e - 2)
  have hquarter : (2 : ℚ) ^ (e - 2) = 2 ^ e / 4 := by rw [zpow_sub₀ two_ne_zero]; norm_num
  unfold roundingInterval
  dsimp only
  generalize powTwo (e - 2) = ab at ha hb h2
  obtain ⟨a, b⟩ := ab
  dsimp only at ha hb h2 ⊢
  have hb' : (0 : ℚ) < b := by exact_mod_cast hb
  refine ⟨_, _, _, _, if m = Nat.pow 2 52 ∧ e > minExp then 1 else 2, rfl, hb, ?_, ?_, ?_⟩
  · split_ifs with h
    · exact .inr ⟨rfl, h.1⟩
    · exact .inl rfl
  · rw [Nat.cast_mul, mul_div_assoc, h2, hquarter]
    split_ifs <;> rw [Nat.cast_sub (by omega)] <;> push_cast <;> ring
  · rw [Nat.cast_mul, mul_div_assoc, h2, hquarter]
    push_cast
    ring

/-! ## Trailing zeros -/

/-- The trailing zeros of a number's digits count a power of ten that divides it. -/
theorem pow_trailingZeros_dvd (d : Nat) :
    Nat.pow 10 ((Nat.toDigits 10 d).reverse.takeWhile (· = '0')).length ∣ d := by
  induction d using Nat.strong_induction_on with
  | _ d ih =>
    rcases Nat.lt_or_ge d 10 with hd | hd
    · -- one digit, which counts as a zero only for zero
      rw [Nat.toDigits_of_lt_base hd]
      by_cases h0 : d = 0
      · subst h0
        decide
      · simp [h0]
    · rw [Nat.toDigits_of_base_le (by decide) hd, List.reverse_append, List.reverse_singleton,
        List.singleton_append, List.takeWhile_cons]
      by_cases h0 : d % 10 = 0
      · rw [if_pos (by simp [h0]), List.length_cons]
        change Nat.pow 10 _ * 10 ∣ d
        have hdiv : d / 10 * 10 = d := Nat.div_mul_cancel (Nat.dvd_of_mod_eq_zero h0)
        have hmul := Nat.mul_dvd_mul (ih (d / 10) (by omega)) (dvd_refl 10)
        rwa [hdiv] at hmul
      · rw [if_neg (by simp [h0])]
        exact ⟨d, by simp [Nat.pow_eq]⟩

/-- Moving trailing zeros into the exponent keeps the value and a positive number positive. -/
theorem trimZeros_spec (d : Nat) (x : Int) :
    ((trimZeros d x).1 : ℚ) * 10 ^ (trimZeros d x).2 = d * 10 ^ x ∧ (trimZeros d x).1 ≤ d ∧
      (0 < d → 0 < (trimZeros d x).1) := by
  have hdvd := pow_trailingZeros_dvd d
  unfold trimZeros
  dsimp only
  generalize ((Nat.toDigits 10 d).reverse.takeWhile (· = '0')).length = z at hdvd ⊢
  obtain ⟨c, hc⟩ := hdvd
  have hpos : 0 < Nat.pow 10 z := by simp [Nat.pow_eq]
  rw [hc, Nat.mul_div_cancel_left c hpos]
  refine ⟨?_, Nat.le_mul_of_pos_left c hpos, fun h => Nat.pos_of_mul_pos_left h⟩
  push_cast [Nat.pow_eq]
  rw [zpow_add₀ (by norm_num), zpow_natCast]
  ring

/-! ## Seventeen digits -/

/-- **Seventeen digits suffice.** The shortest digits of a finite positive value `m · 2^e` with
`m < 2^53` are found: a positive number at most `10^17`, read as a decimal `d · 10^x` within half
a unit of the value. At seventeen digits the grid's step is at most the value over `10^16`, below
half a unit even at the start of a binade, where the interval reaches only a quarter unit down. -/
theorem digitsOf_spec {m : Nat} (hm0 : 0 < m) (hm : m < twoPow53) (e : Int) :
    0 < (digitsOf m e).1 ∧ (digitsOf m e).1 ≤ Nat.pow 10 17 ∧
      |((digitsOf m e).1 : ℚ) * 10 ^ (digitsOf m e).2 - m * 2 ^ e| ≤ 2 ^ e / 2 := by
  obtain ⟨lo, hi, den, closed, g, hri, hden, hg, hlo, hhi⟩ := roundingInterval_spec hm0 e
  obtain ⟨ha, hb⟩ := powTwo_pos e
  have hv := powTwo_div e
  unfold digitsOf
  generalize powTwo e = ab at ha hb hv
  obtain ⟨a, b⟩ := ab
  dsimp only at ha hb hv ⊢
  rw [hri, shortestDigits_eq]
  dsimp only
  have hval : ((m * a : Nat) : ℚ) / b = m * 2 ^ e := by push_cast; rw [mul_div_assoc, hv]
  obtain ⟨htop, htop1⟩ := decimalExponent_spec (Nat.mul_pos hm0 ha) hb
  rw [hval] at htop htop1
  generalize decimalExponent (m * a) b = top at htop htop1 ⊢
  have he : (0 : ℚ) < 2 ^ e := by positivity
  have hm' : (m : ℚ) < 2 ^ 53 := by exact_mod_cast hm
  have hg2 : (g : ℚ) ≤ 2 := by rcases hg with rfl | ⟨rfl, -⟩ <;> norm_num
  -- the value sits `g` quarters of a unit above the interval's lower end, with `2 m < g · 10^16`
  have hmargin : 2 * (m : ℚ) < g * 10 ^ 16 := by
    rcases hg with rfl | ⟨rfl, rfl⟩
    · push_cast
      linarith
    · norm_num [Nat.pow_eq]
  -- at seventeen digits the grid's step is at most the value over `10^16`
  have hstep : (10 : ℚ) ^ (top - (17 : Nat) + 1) * 10 ^ 16 ≤ m * 2 ^ e := by
    rw [← zpow_natCast, ← zpow_add₀ (by norm_num)]
    convert htop using 2
    push_cast
    ring
  have hfine : 2 * (10 : ℚ) ^ (top - (17 : Nat) + 1) < g * 2 ^ e := by
    linarith [mul_lt_mul_of_pos_right hmargin he]
  have hlo0 : (0 : ℚ) < lo / den := by
    rw [hlo]
    linarith [mul_le_mul_of_nonneg_right hg2 he.le,
      mul_le_mul_of_nonneg_right (show (1 : ℚ) ≤ m by exact_mod_cast hm0) he.le]
  have hg2E := mul_le_mul_of_nonneg_right hg2 he.le
  have hlo' : (lo : ℚ) / den < ((m * a : Nat) : ℚ) / b - 10 ^ (top - (17 : Nat) + 1) / 2 := by
    rw [hlo, hval]
    generalize (10 : ℚ) ^ (top - (17 : Nat) + 1) = T at hfine ⊢
    generalize (2 : ℚ) ^ e = E at hfine ⊢
    linarith
  have hhi' : ((m * a : Nat) : ℚ) / b + 10 ^ (top - (17 : Nat) + 1) / 2 < hi / den := by
    rw [hhi, hval]
    generalize (10 : ℚ) ^ (top - (17 : Nat) + 1) = T at hfine ⊢
    generalize (2 : ℚ) ^ e = E at hfine hg2E ⊢
    linarith
  obtain ⟨i, r, -, hi17, hstepi, hsearch⟩ := search_eq_step (m * a) b top (insideTest lo hi den closed) 17 1 17
    (by omega) (by omega) (searchStep_isSome hb hden closed top 17 hlo0.le hlo' hhi')
  rw [hsearch]
  obtain ⟨d, x⟩ := r
  obtain ⟨rfl, hin, hd⟩ := searchStep_some hb hstepi
  obtain ⟨hlow, hhigh⟩ := insideTest_sound hden hin
  obtain ⟨htrim, hle, hpos⟩ := trimZeros_spec d (top - i + 1)
  rw [hval] at hd
  refine ⟨hpos (Nat.pos_of_ne_zero fun h0 => ?_), le_trans hle ?_, ?_⟩
  · rw [h0, Nat.cast_zero, zero_mul] at hlow
    linarith
  · -- the scaled value is below `10^i`, so the digit count is at most `i ≤ 17`
    have hbelow : (m : ℚ) * 2 ^ e * 10 ^ (-(top - i + 1)) < 10 ^ (17 : Int) := by
      calc (m : ℚ) * 2 ^ e * 10 ^ (-(top - i + 1)) < 10 ^ (top + 1) * 10 ^ (-(top - i + 1)) :=
            mul_lt_mul_of_pos_right htop1 (by positivity)
        _ = 10 ^ (i : Int) := by rw [← zpow_add₀ (by norm_num)]; congr 1; ring
        _ ≤ 10 ^ (17 : Int) := zpow_le_zpow_right₀ (by norm_num) (by omega)
    have hcast : (d : ℚ) < ((Nat.pow 10 17 + 1 : Nat) : ℚ) := by
      have h17 : ((Nat.pow 10 17 + 1 : Nat) : ℚ) = 10 ^ (17 : Int) + 1 := by
        push_cast [Nat.pow_eq]
        norm_num
      rw [h17]
      linarith
    have := Nat.cast_lt.1 hcast
    omega
  · rw [htrim, abs_le]
    constructor <;> linarith

end Binary64

end Warden
