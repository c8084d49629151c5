import Warden.Proofs.RelaxedPretty
import Warden.Proofs.Calendar

/-!
# Integers that binary64 holds exactly

The relaxed reader reads every number as a binary64 value and cuts it back to an integer where a
field is an integer. Each integer up to `2^53` is a binary64 value exactly: scaled by
`2^(52 - log2 n)` it has at most 53 bits, so rounding has nothing to do
(`Binary64.ofRat_one`), and cutting it back gives the integer again. Its decimal text, as the
writer prints it, is read as that value (`parseNumber_toString`): it is neither hexadecimal nor
an infinity or a NaN, and it is a decimal with no point and no exponent.

Past `2^53` this fails: `2^53 + 1` is read as `2^53`.
-/

namespace Warden

namespace Binary64

theorem powTwo_neg (k : Nat) : powTwo (-(k : Int)) = (1, Nat.pow 2 k) := by
  unfold powTwo
  split_ifs with h
  · obtain rfl : k = 0 := by omega
    rfl
  · congr 2
    omega

/-- A positive integer below `2^53` is rounded to itself: its significand is the integer scaled up
to 53 bits. -/
theorem ofRat_one {n : Nat} (h0 : 0 < n) (h : n < twoPow53) :
    ofRat false n 1 = finite false (n * Nat.pow 2 (52 - Nat.log2 n)) (-((52 - Nat.log2 n : Nat) : Int)) := by
  have hL : Nat.log2 n ≤ 52 := by
    have := (Nat.log2_lt (by omega)).2 (show n < 2 ^ 53 from h)
    omega
  have hlow : 2 ^ Nat.log2 n ≤ n := (Nat.le_log2 (by omega)).1 le_rfl
  have hhigh : n < 2 ^ (Nat.log2 n + 1) := (Nat.log2_lt (by omega)).1 (by omega)
  have hguess : (Nat.log2 n : Int) - ((Nat.log2 1 : Nat) : Int) - 52 = -((52 - Nat.log2 n : Nat) : Int) := by
    rw [show Nat.log2 1 = 0 from rfl]
    omega
  -- scaled by `2^(52 - log2 n)`, the integer reaches `2^52` and stays below `2^53`
  have hsplit : 2 ^ Nat.log2 n * 2 ^ (52 - Nat.log2 n) = 2 ^ 52 := by
    rw [← pow_add, Nat.add_sub_cancel' hL]
  have hreach : n * Nat.pow 2 (52 - Nat.log2 n) ≥ Nat.pow 2 52 * 1 * 1 := by
    show 2 ^ 52 * 1 * 1 ≤ n * 2 ^ (52 - Nat.log2 n)
    rw [Nat.mul_one, Nat.mul_one, ← hsplit]
    exact Nat.mul_le_mul_right _ hlow
  have hbelow : ¬ (n * Nat.pow 2 (52 - Nat.log2 n) ≥ twoPow53) := by
    show ¬ (n * 2 ^ (52 - Nat.log2 n) ≥ 9007199254740992)
    have hlt : n * 2 ^ (52 - Nat.log2 n) < 2 ^ (Nat.log2 n + 1) * 2 ^ (52 - Nat.log2 n) :=
      Nat.mul_lt_mul_of_pos_right hhigh (Nat.two_pow_pos _)
    rw [← pow_add, show Nat.log2 n + 1 + (52 - Nat.log2 n) = 53 by omega] at hlt
    exact Nat.not_le.2 hlt
  have hmax : max (-((52 - Nat.log2 n : Nat) : Int)) minExp = -((52 - Nat.log2 n : Nat) : Int) := by
    simp only [minExp]
    omega
  have hround : roundHalfEven (n * Nat.pow 2 (52 - Nat.log2 n)) (1 * 1) = n * Nat.pow 2 (52 - Nat.log2 n) := by
    simp only [roundHalfEven, Nat.mul_one, Nat.div_one, Nat.mod_one, Nat.mul_zero, Nat.zero_lt_one, if_true]
  have hexp : ¬ (-((52 - Nat.log2 n : Nat) : Int) > maxExp) := by
    simp only [maxExp]
    omega
  unfold ofRat
  rw [if_neg (by simp; omega)]
  simp only [hguess, powTwo_neg, hreach, decide_true, if_true, hmax, hround, hbelow, if_false, hexp]

/-- Positive integers up to `2^53` are binary64 values: cut back to an unsigned integer, each
gives itself. -/
theorem toU64Saturating_ofNat {n : Nat} (h0 : 0 < n) (h : n ≤ twoPow53) : (ofNat n).toU64Saturating = n := by
  rcases Nat.lt_or_ge n twoPow53 with hlt | hge
  · have hp : 0 < Nat.pow 2 (52 - Nat.log2 n) := Nat.two_pow_pos _
    rw [ofNat, ofRat_one h0 hlt, toU64Saturating, powTwo_neg]
    dsimp only
    rw [Nat.mul_one, Nat.mul_div_cancel _ hp, Nat.min_eq_left (by simp [twoPow53] at hlt; omega)]
  · obtain rfl : n = twoPow53 := by omega
    decide

theorem toI64Saturating_ofNat {n : Nat} (h0 : 0 < n) (h : n ≤ twoPow53) : (ofNat n).toI64Saturating = n := by
  rcases Nat.lt_or_ge n twoPow53 with hlt | hge
  · have hp : 0 < Nat.pow 2 (52 - Nat.log2 n) := Nat.two_pow_pos _
    rw [ofNat, ofRat_one h0 hlt, toI64Saturating, powTwo_neg]
    dsimp only
    rw [Nat.mul_one, Nat.mul_div_cancel _ hp, if_neg Bool.false_ne_true]
    simp only [twoPow53] at hlt
    omega
  · obtain rfl : n = twoPow53 := by omega
    decide

theorem isFinite_ofNat {n : Nat} (h0 : 0 < n) (h : n ≤ twoPow53) : (ofNat n).isFinite = true := by
  rcases Nat.lt_or_ge n twoPow53 with hlt | hge
  · rw [ofNat, ofRat_one h0 hlt]
    rfl
  · obtain rfl : n = twoPow53 := by omega
    decide

/-- A decimal with no exponent and at most 310 digits is its integer, rounded. -/
theorem ofDecimal_zero {n : Nat} (h0 : 0 < n) (hlen : (Nat.toDigits 10 n).length ≤ 310) :
    ofDecimal false n 0 = ofNat n := by
  unfold ofDecimal ofNat
  rw [if_neg (by omega), if_neg (by omega), if_neg (by omega), if_pos le_rfl]
  simp

end Binary64

namespace Relaxed

/-- A number below `10^k` has at most `k` decimal digits. -/
theorem length_toDigits_le {n k : Nat} (hk : 0 < k) (h : n < Nat.pow 10 k) : (Nat.toDigits 10 n).length ≤ k := by
  induction n using Nat.strong_induction_on generalizing k with
  | _ n ih =>
    rw [Nat.toDigits_eq_if (by decide)]
    split
    · simp
      omega
    · next h10 =>
      obtain ⟨j, rfl⟩ : ∃ j, k = j + 1 := ⟨k - 1, by omega⟩
      have hj : 0 < j := by
        rcases Nat.eq_zero_or_pos j with rfl | hj
        · simp [Nat.pow] at h
          omega
        · exact hj
      have hdiv : n / 10 < Nat.pow 10 j := by
        rw [Nat.div_lt_iff_lt_mul (by decide)]
        simpa [Nat.pow_succ] using h
      rw [List.length_append, List.length_singleton]
      have := ih (n / 10) (by omega) hj hdiv
      omega

theorem utf8Size_of_isDigit {c : Char} (h : isDigit c = true) : c.utf8Size = 1 := by
  have hc := (isDigit_iff.1 h).2
  unfold Char.utf8Size
  simp only [UInt32.le_iff_toNat_le, Char.toNat_val] at *
  rw [if_pos (by simp; omega)]

/-- Decimal digits not starting with `0` are not hexadecimal: the first two are no `0x`, and no
character is cut by the test on the first two bytes. -/
theorem hexPrefixed_digits {d : Char} {ds : List Char} (hd : d ≠ '0') (hdig : ∀ c ∈ d :: ds, isDigit c = true) :
    hexPrefixed (d :: ds) = .ok false := by
  unfold hexPrefixed
  split_ifs with hsmall
  · rfl
  cases ds with
  | nil =>
    rw [List.foldl_cons, List.foldl_nil, utf8Size_of_isDigit (hdig d List.mem_cons_self)] at hsmall
    omega
  | cons e es =>
    have h1 := utf8Size_of_isDigit (hdig d List.mem_cons_self)
    have h2 := utf8Size_of_isDigit (hdig e (List.mem_cons_of_mem _ List.mem_cons_self))
    have hacross : charAcross 2 (d :: e :: es) 0 = none := by
      simp only [charAcross, h1, h2]
      cases es <;> simp [charAcross]
    rw [hacross]
    simp [hd]

theorem ofList_map_toLower_ne {d : Char} {ds : List Char} {t : String} (hlow : d.toLower = d)
    (ht : t.toList.head? ≠ some d) : String.ofList ((d :: ds).map Char.toLower) ≠ t := by
  intro heq
  apply ht
  rw [← heq, String.toList_ofList, List.map_cons, List.head?_cons, hlow]

/-- Decimal digits are read as the decimal they spell, with no point and no exponent. -/
theorem parseDecimal_digits {n : Nat} (h0 : 0 < n) :
    parseDecimal false (Nat.toDigits 10 n) = some (Binary64.ofDecimal false n 0) := by
  have hdig : ∀ c ∈ Nat.toDigits 10 n, isDigit c = true := fun c hc => isDigit_of_mem_toDigits hc
  have hwhole : (Nat.toDigits 10 n).takeWhile isDigit = Nat.toDigits 10 n := List.takeWhile_eq_self_iff.2 hdig
  have hne : (Nat.toDigits 10 n).isEmpty = false := by
    rcases toDigits_cases n with ⟨rfl, -⟩ | ⟨d, ds, hds, -⟩
    · omega
    · rw [hds]
      rfl
  have hvalue : (Nat.toDigits 10 n ++ []).foldl (fun (m : Nat) (c : Char) => m * 10 + (c.toNat - 48)) 0 = n := by
    rw [List.append_nil, show (48 : Nat) = '0'.toNat from rfl, Timestamp.foldl_digits, Nat.ofDigitChars_ten_toDigits]
  unfold parseDecimal
  simp only [hwhole, List.drop_length, hne, List.isEmpty_nil, Bool.false_and, Bool.false_eq_true, if_false,
    Option.map_some, hvalue, List.length_nil, Nat.cast_zero, Int.sub_zero]

/-- The decimal text of a positive integer, as the writer prints it, is read as a finite binary64
value: the integer, rounded. -/
theorem parseF64_digits {n : Nat} (h0 : 0 < n) (hlen : (Nat.toDigits 10 n).length ≤ 310) :
    parseF64 (Nat.toDigits 10 n) = some (Binary64.ofNat n) := by
  obtain ⟨d, ds, hds, hd⟩ : ∃ d ds, Nat.toDigits 10 n = d :: ds ∧ ('1' ≤ d && d ≤ '9') = true := by
    rcases toDigits_cases n with ⟨rfl, -⟩ | h
    · omega
    · exact h
  have hdigit : isDigit d = true := isDigit_of_mem_toDigits (m := n) (by rw [hds]; exact List.mem_cons_self)
  have hlow : d.toLower = d := toLower_eq_self (by have := isDigit_iff.1 hdigit; omega)
  have hword : ∀ t : String, t.toList.head? ≠ some d → String.ofList ((d :: ds).map Char.toLower) ≠ t :=
    fun t ht => ofList_map_toLower_ne hlow ht
  have hdec := parseDecimal_digits h0
  rw [hds] at hdec ⊢
  unfold parseF64
  split
  · next hm =>
    split at hm
    · exact absurd (List.cons.inj ‹d :: ds = '-' :: _›).1 (ne_of_isDigit hdigit rfl)
    · exact absurd (List.cons.inj ‹d :: ds = '+' :: _›).1 (ne_of_isDigit hdigit rfl)
    · obtain ⟨rfl, rfl⟩ := Prod.mk.inj hm
      have hinf := hword "inf" (by simp; exact (ne_of_isDigit hdigit rfl).symm)
      have hinfinity := hword "infinity" (by simp; exact (ne_of_isDigit hdigit rfl).symm)
      have hnan := hword "nan" (by simp; exact (ne_of_isDigit hdigit rfl).symm)
      dsimp only
      rw [if_neg (by simp only [hinf, hinfinity, decide_false, Bool.or_self, Bool.false_eq_true, not_false_eq_true]),
        if_neg hnan, hdec, Binary64.ofDecimal_zero h0 hlen]

/-- **Integers read back as numbers.** The text of a positive integer up to `2^53` is read as
the binary64 value of the integer. -/
theorem parseNumber_toString {n : Nat} (h0 : 0 < n) (h : n ≤ Binary64.twoPow53) :
    parseNumber (toString (n : Int)) = .ok (Binary64.ofNat n) := by
  have htext : (toString (n : Int)).toList = Nat.toDigits 10 n := by
    show n.repr.toList = _
    rw [Nat.toList_repr]
  have hlen : (Nat.toDigits 10 n).length ≤ 16 :=
    length_toDigits_le (by decide) (by simp only [Binary64.twoPow53] at h; show n < 10000000000000000; omega)
  obtain ⟨d, ds, hds, hd⟩ : ∃ d ds, Nat.toDigits 10 n = d :: ds ∧ ('1' ≤ d && d ≤ '9') = true := by
    rcases toDigits_cases n with ⟨rfl, -⟩ | h
    · omega
    · exact h
  have hdigit : isDigit d = true := isDigit_of_mem_toDigits (m := n) (by rw [hds]; exact List.mem_cons_self)
  -- the text starts with a digit, so it names no infinity and no NaN
  have hspecial : ∀ t : String, t.toList.head? ≠ some d → toString (n : Int) ≠ t := by
    intro t ht heq
    apply ht
    rw [← heq, htext, hds, List.head?_cons]
  have hzero : d ≠ '0' := by
    rintro rfl
    cases hd
  have hhex : hexPrefixed (toString (n : Int)).toList = .ok false := by
    rw [htext, hds]
    exact hexPrefixed_digits hzero fun c hc => isDigit_of_mem_toDigits (m := n) (by rw [hds]; exact hc)
  have hf : parseF64 (toString (n : Int)).toList = some (Binary64.ofNat n) := by
    rw [htext]
    exact parseF64_digits h0 (by omega)
  unfold parseNumber
  split
  · exact absurd ‹_› (hspecial "Infinity" (by simp; exact (ne_of_isDigit hdigit rfl).symm))
  · exact absurd ‹_› (hspecial "-Infinity" (by simp; exact (ne_of_isDigit hdigit rfl).symm))
  · exact absurd ‹_› (hspecial "NaN" (by simp; exact (ne_of_isDigit hdigit rfl).symm))
  · exact absurd ‹_› (hspecial "-NaN" (by simp; exact (ne_of_isDigit hdigit rfl).symm))
  · dsimp only
    rw [hhex]
    dsimp only [bind, Except.bind]
    rw [hf]
    simp [Binary64.isFinite_ofNat h0 h]

end Relaxed

end Warden
