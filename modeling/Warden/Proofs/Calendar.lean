import Mathlib
import Warden.Time.Timestamp

/-!
# Instants written and read back

An instant is written in RFC 3339 through its civil date and time of day, and the relaxed
reader takes the text back to the instant. The two meet exactly on the instants a date can carry
(`Timestamp.Valid`): a second inside the years `minYear` to `maxYear`, and a nanosecond part
below one second, or below two where a leap second ends its minute. For those the reader gives
back the instant that was written (`Timestamp.ofRfc3339_rfc3339`).

## The calendar

Day numbers are taken to dates through eras of 400 years, each starting on the first of March so
that the leap day ends its year. Inside an era the year is a closed formula in the day; what the
rest needs of it is that every day falls in one of the era's 400 years, at one of its first 365
days or on the 366th of a leap year (`yearOfEra_bounds`). The proof splits the era into its four
centuries and each century into four-year cycles, where the formula can be followed by hand.
From there the date of a day number is a date (`civilOfDays_isDate`), turning it back into a day
number gives the day back (`daysOfCivil_civilOfDays`), and the days inside the range of instants
have dates inside the range of years (`civilOfDays_year_bounds`).

## The text

Each number of the text is written with its digits padded by zeros, and read by taking digits up
to a width or up to the next character that is no digit (`takeNumber_digits`). The year is
written with four digits, or with a sign and as many as it needs, and the fraction of a second
with 0, 3, 6 or 9 digits that are scaled back to nanoseconds.
-/

namespace Warden

namespace Timestamp

/-! ## Days of an era -/

/-- Every day of an era falls in one of its 400 years, the years counted from March: at one of
the year's first 365 days, or on its 366th when the year ends in a leap day. -/
theorem yearOfEra_bounds {doe : Int} (h0 : 0 ≤ doe) (h1 : doe ≤ 146096) :
    let yoe := (doe - doe / 1460 + doe / 36524 - doe / 146096) / 365
    let doy := doe - (365 * yoe + yoe / 4 - yoe / 100)
    0 ≤ yoe ∧ yoe ≤ 399 ∧ 0 ≤ doy ∧
      (doy ≤ 364 ∨ doy = 365 ∧ (yoe + 1) % 4 = 0 ∧ ((yoe + 1) % 100 ≠ 0 ∨ (yoe + 1) % 400 = 0)) := by
  intro yoe doy
  rcases (show doe = 146096 ∨ doe < 146096 by omega) with hlast | hlt
  · -- the era's last day is the leap day that ends its 400th year
    subst hlast
    decide
  · -- inside one of the four centuries: the day is split into its four-year cycle `q` and the
    -- day `r` of that cycle, and the year of the cycle `k` is what the formula adds
    obtain ⟨f, hf⟩ : ∃ f, f = doe / 36524 := ⟨_, rfl⟩
    obtain ⟨q, hq⟩ : ∃ q, q = (doe - 36524 * f) / 1461 := ⟨_, rfl⟩
    obtain ⟨r, hr⟩ : ∃ r, r = (doe - 36524 * f) % 1461 := ⟨_, rfl⟩
    have hfq : 0 ≤ f ∧ f ≤ 3 ∧ 0 ≤ r ∧ r ≤ 1460 ∧ 0 ≤ q ∧ 1461 * q + r ≤ 36523 ∧
        doe = 36524 * f + 1461 * q + r := by omega
    obtain ⟨k, hk⟩ : ∃ k, k = (r - (24 * f + q + r) / 1460) / 365 := ⟨_, rfl⟩
    have hyoe : yoe = 100 * f + 4 * q + k := by omega
    have hk3 : 0 ≤ k ∧ k ≤ 3 := by omega
    have h4 : yoe / 4 = 25 * f + q := by rw [hyoe]; omega
    have h100 : yoe / 100 = f := by rw [hyoe]; omega
    have hdoy : doy = r - 365 * k := by
      show doe - (365 * yoe + yoe / 4 - yoe / 100) = _
      rw [h4, h100, hyoe]
      omega
    clear_value yoe doy
    subst hdoy hyoe
    clear h4 h100 hf hq hr
    rcases (show (24 * f + q + r) / 1460 = 0 ∨ (24 * f + q + r) / 1460 = 1 by omega) with hδ | hδ
    · -- the cycle's leap day is not reached
      omega
    · -- past the leap day of the cycle's fourth year: the day is in that year
      have hr1 : 1364 ≤ r := by omega
      have hk3 : k = 3 := by omega
      subst hk3
      omega

/-! ## Dates of day numbers -/

/-- The date of a day number, taken apart: its era, its year of the era and day of that year,
the years counted from March, and the month and day read off the day of the year. -/
theorem civilOfDays_parts (z : Int) :
    ∃ era yoe doy : Int,
      z + 719468 = era * 146097 + (365 * yoe + yoe / 4 - yoe / 100 + doy) ∧
      0 ≤ yoe ∧ yoe ≤ 399 ∧ 0 ≤ doy ∧
      (doy ≤ 364 ∨ doy = 365 ∧ (yoe + 1) % 4 = 0 ∧ ((yoe + 1) % 100 ≠ 0 ∨ (yoe + 1) % 400 = 0)) ∧
      let mp := (5 * doy + 2) / 153
      let m := if mp < 10 then mp + 3 else mp - 9
      civilOfDays z = (if m ≤ 2 then yoe + era * 400 + 1 else yoe + era * 400, m.toNat,
        (doy - (153 * mp + 2) / 5 + 1).toNat) := by
  obtain ⟨era, doe, hz, h0, h1⟩ : ∃ era doe : Int,
      z + 719468 = era * 146097 + doe ∧ 0 ≤ doe ∧ doe ≤ 146096 :=
    ⟨(z + 719468) / 146097, (z + 719468) % 146097, by omega, by omega, by omega⟩
  have hera : (z + 719468).fdiv 146097 = era := by
    rw [Int.fdiv_eq_ediv, if_pos (.inl (by decide))]
    omega
  have hdoe : z + 719468 - era * 146097 = doe := by omega
  obtain ⟨hy0, hy1, hd0, hleap⟩ := yearOfEra_bounds h0 h1
  refine ⟨era, _, _, ?_, hy0, hy1, hd0, hleap, ?_⟩
  · omega
  · simp only [civilOfDays, hera, hdoe]

theorem isLeapYear_iff (y : Int) : isLeapYear y = true ↔ (y % 4 = 0 ∧ y % 100 ≠ 0) ∨ y % 400 = 0 := by
  simp [isLeapYear]

/-- The date of a day number is a date: a month of the year and a day of that month. -/
theorem civilOfDays_isDate (z : Int) :
    1 ≤ (civilOfDays z).2.1 ∧ (civilOfDays z).2.1 ≤ 12 ∧ 1 ≤ (civilOfDays z).2.2 ∧
      (civilOfDays z).2.2 ≤ daysInMonth (civilOfDays z).1 (civilOfDays z).2.1 := by
  obtain ⟨era, yoe, doy, -, hy0, hy1, hd0, hleap, hciv⟩ := civilOfDays_parts z
  obtain ⟨mp, hmp⟩ : ∃ mp, (5 * doy + 2) / 153 = mp := ⟨_, rfl⟩
  dsimp only at hciv
  rw [hciv, hmp]
  dsimp only
  have hdoy : doy ≤ 365 := by omega
  rcases (show mp = 11 ∨ mp ≤ 10 by omega) with rfl | hmonth
  · -- February, whose 29th day is the last day of a year counted from March: only a leap year has it
    simp [daysInMonth]
    split_ifs with hl
    · omega
    · rw [isLeapYear_iff] at hl
      omega
  · -- every other month, counted from March, has a length of its own
    rcases (show mp = 0 ∨ mp = 1 ∨ mp = 2 ∨ mp = 3 ∨ mp = 4 ∨ mp = 5 ∨ mp = 6 ∨ mp = 7 ∨ mp = 8 ∨
        mp = 9 ∨ mp = 10 by omega) with h | h | h | h | h | h | h | h | h | h | h <;>
      subst h <;> simp [daysInMonth] <;> omega

/-- **The calendar round trip.** Turning the date of a day number back into a day number gives
the day. -/
theorem daysOfCivil_civilOfDays (z : Int) :
    daysOfCivil (civilOfDays z).1 (civilOfDays z).2.1 (civilOfDays z).2.2 = z := by
  obtain ⟨era, yoe, doy, hz, hy0, hy1, hd0, hleap, hciv⟩ := civilOfDays_parts z
  obtain ⟨mp, hmp⟩ : ∃ mp, (5 * doy + 2) / 153 = mp := ⟨_, rfl⟩
  dsimp only at hciv
  rw [hciv, hmp]
  have hmp11 : 0 ≤ mp ∧ mp ≤ 11 := by omega
  have hday : (153 * mp + 2) / 5 ≤ doy := by omega
  simp only [daysOfCivil, Int.fdiv_eq_ediv]
  split_ifs <;> omega

/-- The days from the first to the last date the calendar carries have years in its range. -/
theorem civilOfDays_year_bounds {z : Int} (h0 : daysOfCivil minYear 1 1 ≤ z)
    (h1 : z ≤ daysOfCivil maxYear 12 31) :
    minYear ≤ (civilOfDays z).1 ∧ (civilOfDays z).1 ≤ maxYear := by
  have hmin : daysOfCivil minYear 1 1 = -96465292 := by decide
  have hmax : daysOfCivil maxYear 12 31 = 95026236 := by decide
  obtain ⟨era, yoe, doy, hz, hy0, hy1, hd0, hleap, hciv⟩ := civilOfDays_parts z
  obtain ⟨mp, hmp⟩ : ∃ mp, (5 * doy + 2) / 153 = mp := ⟨_, rfl⟩
  dsimp only at hciv
  rw [hciv, hmp, minYear, maxYear]
  dsimp only
  have hmp11 : 0 ≤ mp ∧ mp ≤ 11 := by omega
  -- only the first and the last era reach the ends of the range
  have hera : -656 ≤ era ∧ era ≤ 655 := by omega
  rcases (show era = -656 ∨ (-656 < era ∧ era < 655) ∨ era = 655 by omega) with he | he | he
  · subst he
    split_ifs <;> omega
  · split_ifs <;> omega
  · subst he
    split_ifs <;> omega

/-! ## Numbers in text -/

/-- A text takes at least a byte a character. -/
theorem length_le_byteLength (cs : List Char) : cs.length ≤ byteLength cs := by
  have hacc : ∀ (a : Nat) (cs : List Char), a + cs.length ≤ cs.foldl (fun n c => n + c.utf8Size) a := by
    intro a cs
    induction cs generalizing a with
    | nil => simp
    | cons c cs ih =>
      have := ih (a + c.utf8Size)
      have := Char.utf8Size_pos c
      simp only [List.foldl_cons, List.length_cons]
      omega
  simpa [byteLength] using hacc 0 cs

/-- The digits the reader folds are the number they spell. -/
theorem foldl_digits (ds : List Char) :
    ds.foldl (fun n c => n * 10 + (c.toNat - '0'.toNat)) 0 = Nat.ofDigitChars 10 ds 0 := by
  rw [Nat.ofDigitChars_eq_foldl]
  congr
  funext n c
  rw [Nat.mul_comm]

/-- Digits followed by what is no digit, or filling the width, are taken whole and read as the
number they spell. -/
theorem takeNumber_digits (ds rest : List Char) (lo hi : Nat) (hdig : ∀ c ∈ ds, c.isDigit = true)
    (hlo : lo ≤ ds.length) (hhi : ds.length ≤ hi)
    (hstop : ds.length = hi ∨ ∀ c ∈ rest.head?, c.isDigit = false)
    (hv : Nat.ofDigitChars 10 ds 0 ≤ 9223372036854775807) :
    takeNumber (ds ++ rest) lo hi = .ok (Nat.ofDigitChars 10 ds 0, rest) := by
  have hbytes : ¬ byteLength (ds ++ rest) < lo := by
    have := length_le_byteLength (ds ++ rest)
    rw [List.length_append] at this
    omega
  -- the digits are all taken, and nothing after them
  have htake : ((ds ++ rest).take hi).takeWhile Char.isDigit = ds := by
    rw [List.take_append, List.take_of_length_le hhi, List.takeWhile_append_of_pos hdig]
    rcases hstop with heq | hnd
    · rw [heq, Nat.sub_self, List.take_zero, List.takeWhile_nil, List.append_nil]
    · cases rest with
      | nil => simp
      | cons c rest =>
        have hc : c.isDigit = false := hnd c rfl
        rcases Nat.eq_zero_or_pos (hi - ds.length) with h0 | hpos
        · rw [h0, List.take_zero, List.takeWhile_nil, List.append_nil]
        · obtain ⟨k, hk⟩ : ∃ k, hi - ds.length = k + 1 := ⟨_, (Nat.succ_pred_eq_of_pos hpos).symm⟩
          rw [hk, List.take_succ_cons, List.takeWhile_cons_of_neg (by simp [hc]), List.append_nil]
  unfold takeNumber
  rw [if_neg hbytes]
  simp only [htake, if_neg (Nat.not_lt.mpr hlo), foldl_digits, List.drop_left]
  rw [if_neg (Nat.not_lt.mpr hv)]

theorem toList_pad (w n : Nat) :
    (pad w n).toList = List.replicate (w - (Nat.toDigits 10 n).length) '0' ++ Nat.toDigits 10 n := by
  simp [pad]

theorem isDigit_of_mem_pad {w n : Nat} {c : Char} (h : c ∈ (pad w n).toList) : c.isDigit = true := by
  rw [toList_pad, List.mem_append] at h
  rcases h with h | h
  · rw [List.eq_of_mem_replicate h]
    rfl
  · exact Nat.isDigit_of_mem_toDigits (by decide) (by decide) h

/-- Padding by zeros does not change the number the digits spell. -/
theorem ofDigitChars_pad (w n : Nat) : Nat.ofDigitChars 10 (pad w n).toList 0 = n := by
  rw [toList_pad, Nat.ofDigitChars_append, Nat.ofDigitChars_replicate_zero, Nat.mul_zero,
    Nat.ofDigitChars_ten_toDigits]

theorem length_pad {w n : Nat} (hw : 0 < w) (h : n < 10 ^ w) : (pad w n).toList.length = w := by
  have hlen := (Nat.length_toDigits_le_iff (by decide) hw).2 h
  rw [toList_pad, List.length_append, List.length_replicate]
  omega

theorem le_length_pad (w n : Nat) : w ≤ (pad w n).toList.length := by
  rw [toList_pad, List.length_append, List.length_replicate]
  omega

theorem pad_ne_nil (w n : Nat) : (pad w n).toList ≠ [] := by
  rw [toList_pad]
  simp [Nat.toDigits_ne_nil]

theorem isBlank_of_printable {c : Char} (h1 : 0x21 ≤ c.toNat) (h2 : c.toNat < 0x7F) :
    Text.isBlank c = false := by
  unfold Text.isBlank
  split
  all_goals simp_all
  omega

theorem isBlank_of_isDigit {c : Char} (h : c.isDigit = true) : Text.isBlank c = false := by
  have hd := Char.isDigit_iff_toNat.1 h
  exact isBlank_of_printable (by simp at hd; omega) (by simp at hd; omega)

/-- Written digits start with no blank. -/
theorem dropWhile_pad (w n : Nat) (rest : List Char) :
    ((pad w n).toList ++ rest).dropWhile Text.isBlank = (pad w n).toList ++ rest := by
  obtain ⟨c, l, hcl⟩ := List.exists_cons_of_ne_nil (pad_ne_nil w n)
  have hc : c.isDigit = true := isDigit_of_mem_pad (hcl ▸ List.mem_cons_self)
  rw [hcl, List.cons_append, List.dropWhile_cons_of_neg (by simp [isBlank_of_isDigit hc])]

theorem literal_cons {c : Char} (rest : List Char) (hc : Text.isBlank c = false) :
    literal (c :: rest) c = .ok rest := by
  rw [literal, List.dropWhile_cons_of_neg (by simp [hc])]
  simp

/-- A number of two digits inside the range of its field is read back. -/
theorem field_pad {v lo hi : Nat} (rest : List Char) (hv : v < 100) (hlo : lo ≤ v) (hhi : v ≤ hi) :
    field ((pad 2 v).toList ++ rest) 2 lo hi = .ok (v, rest) := by
  have hlen : (pad 2 v).toList.length = 2 := length_pad (by decide) hv
  have hread := takeNumber_digits (pad 2 v).toList rest 1 2 (fun c hc => isDigit_of_mem_pad hc) (by omega)
    hlen.le (.inl hlen) (by rw [ofDigitChars_pad]; omega)
  rw [ofDigitChars_pad] at hread
  have hin : (v < lo || v > hi) = false := by simp; omega
  simp [field, dropWhile_pad, hread, bind, Except.bind, hin, pure, Except.pure]

/-- A year is read back from its text, up to the dash that follows it. -/
theorem yearField_yearText {y : Int} (rest : List Char) (hy : minYear ≤ y ∧ y ≤ maxYear) :
    yearField ((yearText y).toList ++ '-' :: rest) = .ok (y, '-' :: rest) := by
  have hin : (decide (y < -2147483648) || decide (y > 2147483647)) = false := by
    simp only [minYear, maxYear] at hy
    simp only [Bool.or_eq_false_iff, decide_eq_false_iff_not]
    omega
  have hdash : ∀ c ∈ ('-' :: rest).head?, c.isDigit = false := by simp
  unfold yearText
  split_ifs with h4 hneg
  · -- four digits and no sign: the digits fill the width
    have hlen : (pad 4 y.toNat).toList.length = 4 := length_pad (by decide) (by omega)
    have hread := takeNumber_digits (pad 4 y.toNat).toList ('-' :: rest) 1 4
      (fun c hc => isDigit_of_mem_pad hc) (by omega) hlen.le (.inl hlen) (by rw [ofDigitChars_pad]; omega)
    rw [ofDigitChars_pad] at hread
    obtain ⟨c, l, hcl⟩ := List.exists_cons_of_ne_nil (pad_ne_nil 4 y.toNat)
    have hc : c.isDigit = true := isDigit_of_mem_pad (hcl ▸ List.mem_cons_self)
    rw [yearField, dropWhile_pad]
    rw [hcl, List.cons_append] at hread ⊢
    split <;> rename_i heq
    · -- a digit is no minus sign
      rw [(List.cons_eq_cons.1 heq).1] at hc
      exact absurd hc (by decide)
    · -- nor a plus sign
      rw [(List.cons_eq_cons.1 heq).1] at hc
      exact absurd hc (by decide)
    · simp [hread, bind, Except.bind, pure, Except.pure, Int.toNat_of_nonneg h4.1, hin]
  · -- a minus sign, and the digits up to the dash
    have hcs : (("-" ++ pad 4 y.natAbs).toList ++ '-' :: rest) = '-' :: ((pad 4 y.natAbs).toList ++ '-' :: rest) := by
      simp
    have hread := takeNumber_digits (pad 4 y.natAbs).toList ('-' :: rest) 1
      ('-' :: ((pad 4 y.natAbs).toList ++ '-' :: rest)).length
      (fun c hc => isDigit_of_mem_pad hc) (by have := le_length_pad 4 y.natAbs; omega)
      (by simp only [List.length_cons, List.length_append]; omega) (.inr hdash)
      (by rw [ofDigitChars_pad]; unfold minYear at hy; omega)
    rw [ofDigitChars_pad] at hread
    have hval : -((y.natAbs : Nat) : Int) = y := by omega
    rw [hcs, yearField, List.dropWhile_cons_of_neg (by decide)]
    simp only [hread, bind, Except.bind, pure, Except.pure]
    rw [hval, hin]
    rfl
  · -- a plus sign, and the digits up to the dash
    have hcs : (("+" ++ pad 4 y.toNat).toList ++ '-' :: rest) = '+' :: ((pad 4 y.toNat).toList ++ '-' :: rest) := by
      simp
    have hread := takeNumber_digits (pad 4 y.toNat).toList ('-' :: rest) 1
      ('+' :: ((pad 4 y.toNat).toList ++ '-' :: rest)).length
      (fun c hc => isDigit_of_mem_pad hc) (by have := le_length_pad 4 y.toNat; omega)
      (by simp only [List.length_cons, List.length_append]; omega) (.inr hdash)
      (by rw [ofDigitChars_pad]; unfold maxYear at hy; omega)
    rw [ofDigitChars_pad] at hread
    rw [hcs, yearField, List.dropWhile_cons_of_neg (by decide)]
    simp only [hread, bind, Except.bind, pure, Except.pure, Int.toNat_of_nonneg (show 0 ≤ y by omega)]
    rw [hin]
    rfl

/-- Digits of a fraction, up to what is no digit, are scaled from their count to nanoseconds. -/
theorem fractionField_pad {k v : Nat} (rest : List Char) (hk : 0 < k) (hk9 : k ≤ 9) (hv : v < 10 ^ k)
    (hrest : ∀ c ∈ rest.head?, c.isDigit = false) :
    fractionField ((pad k v).toList ++ rest) = .ok (v * 10 ^ (9 - k), rest) := by
  have hlen : (pad k v).toList.length = k := length_pad hk hv
  have hv9 : v < 10 ^ 9 := Nat.lt_of_lt_of_le hv (Nat.pow_le_pow_right (by decide) hk9)
  have hread := takeNumber_digits (pad k v).toList rest 1 9
    (fun c hc => isDigit_of_mem_pad hc) (by omega) (by omega) (.inr hrest)
    (by rw [ofDigitChars_pad]; omega)
  rw [ofDigitChars_pad] at hread
  -- the zone after the digits stays
  have hdrop : rest.dropWhile Char.isDigit = rest := by
    cases rest with
    | nil => rfl
    | cons c r => exact List.dropWhile_cons_of_neg (by simp [hrest c rfl])
  have hused : ((pad k v).toList ++ rest).length - rest.length = k := by
    rw [List.length_append, hlen]
    omega
  simp only [fractionField, hread, bind, Except.bind, pure, Except.pure, hused, hdrop, Nat.pow_eq]

/-- The fraction of a second is read back as the nanoseconds below the second, up to the zone
after it: no text when the second is whole, and otherwise a point and 3, 6 or 9 digits. -/
theorem fractionText_read (nanos : Nat) (rest : List Char) (hrest : ∀ c ∈ rest.head?, c.isDigit = false) :
    ((fractionText nanos).toList = [] ∧ nanos % 1000000000 = 0) ∨
      ∃ ds, (fractionText nanos).toList = '.' :: ds ∧
        fractionField (ds ++ rest) = .ok (nanos % 1000000000, rest) := by
  unfold fractionText
  dsimp only
  split_ifs with h0 h6 h3
  · exact .inl ⟨rfl, by simpa using h0⟩
  · refine .inr ⟨(pad 3 (nanos % 1000000000 / 1000000)).toList, by simp, ?_⟩
    rw [fractionField_pad rest (by decide) (by decide) (by omega) hrest]
    simp at h6
    congr 2
    omega
  · refine .inr ⟨(pad 6 (nanos % 1000000000 / 1000)).toList, by simp, ?_⟩
    rw [fractionField_pad rest (by decide) (by decide) (by omega) hrest]
    simp at h3
    congr 2
    omega
  · refine .inr ⟨(pad 9 (nanos % 1000000000)).toList, by simp, ?_⟩
    rw [fractionField_pad rest (by decide) (by decide) (by omega) hrest, Nat.sub_self, Nat.pow_zero,
      Nat.mul_one]

theorem daysInMonth_le (y : Int) (m : Nat) : daysInMonth y m ≤ 31 := by
  unfold daysInMonth
  split <;> (try split) <;> omega

/-- **Dates and times read back.** The text of a date, a time of day and a fraction of a second,
each in its range, is read back as the instant they name: the seconds of the date and time, and
the nanoseconds of the fraction, where a second 60 is the leap second that ends second 59. -/
theorem ofRfc3339_text {y : Int} {mo d hh mm ss : Nat} (nanos : Nat) (hy : minYear ≤ y ∧ y ≤ maxYear)
    (hmo : 1 ≤ mo ∧ mo ≤ 12) (hd : 1 ≤ d ∧ d ≤ daysInMonth y mo) (hhh : hh ≤ 23) (hmm : mm ≤ 59)
    (hss : ss ≤ 60) :
    let secs := daysOfCivil y mo d * 86400 + ((hh * 3600 + mm * 60 + if ss = 60 then 59 else ss : Nat) : Int)
    minSecs ≤ secs → secs ≤ maxSecs →
    ofRfc3339 (yearText y ++ "-" ++ pad 2 mo ++ "-" ++ pad 2 d ++ "T" ++ pad 2 hh ++ ":" ++ pad 2 mm ++
        ":" ++ pad 2 ss ++ fractionText nanos ++ "Z") =
      .ok ⟨secs, nanos % 1000000000 + if ss = 60 then 1000000000 else 0⟩ := by
  intro secs hlow hhigh
  have hd31 := daysInMonth_le y mo
  -- the zone `Z` ends the text
  have hZ : List.dropWhile Text.isBlank ['Z'] = ['Z'] := List.dropWhile_cons_of_neg (by decide)
  have hutc : startsWithUtc ['Z'] = false := rfl
  have hoff : offsetField ['Z'] = .ok (0, []) := rfl
  have hcs : (yearText y ++ "-" ++ pad 2 mo ++ "-" ++ pad 2 d ++ "T" ++ pad 2 hh ++ ":" ++ pad 2 mm ++
        ":" ++ pad 2 ss ++ fractionText nanos ++ "Z").toList =
      (yearText y).toList ++ '-' :: ((pad 2 mo).toList ++ '-' :: ((pad 2 d).toList ++ 'T' ::
        ((pad 2 hh).toList ++ ':' :: ((pad 2 mm).toList ++ ':' :: ((pad 2 ss).toList ++
          ((fractionText nanos).toList ++ ['Z'])))))) := by
    simp
  -- the date and the time of day are read field by field, up to the fraction
  simp only [ofRfc3339, hcs, yearField_yearText _ hy, literal_cons _ (show Text.isBlank '-' = false by decide),
    literal_cons _ (show Text.isBlank ':' = false by decide),
    field_pad _ (show mo < 100 by omega) hmo.1 hmo.2, field_pad _ (show d < 100 by omega) hd.1 (show d ≤ 31 by omega),
    field_pad _ (show hh < 100 by omega) (Nat.zero_le _) hhh, field_pad _ (show mm < 100 by omega) (Nat.zero_le _) hmm,
    field_pad _ (show ss < 100 by omega) (Nat.zero_le _) hss, bind, Except.bind, pure, Except.pure]
  clear hcs
  rcases fractionText_read nanos ['Z'] (by simp) with ⟨hF, hn⟩ | ⟨ds, hF, hfrac⟩
  -- a whole second has no fraction, and a fraction is read up to the zone
  on_goal 1 =>
    simp only [hF, List.nil_append]
    split
    · rename_i heq
      simp at heq
    rw [hn]
  on_goal 2 => simp only [hF, List.cons_append, hfrac]
  -- from the zone on, the two are read alike
  all_goals
    simp only [hZ, hutc, hoff]
    simp only [secs] at hlow hhigh ⊢
    by_cases h60 : ss = 60
    · -- a leap second: second 59 and a second's worth of nanoseconds more
      subst h60
      simp at hlow hhigh ⊢
      rw [if_neg (by omega), if_neg (by omega)]
    · simp [h60] at hlow hhigh ⊢
      rw [if_neg (by omega), if_neg (by omega)]

/-! ## Instants read back -/

/-- An instant a date can carry: its second inside the years `minYear` to `maxYear`, and its
nanosecond part below a second, or below two where a leap second ends its minute. -/
def Valid (t : Timestamp) : Prop :=
  minSecs ≤ t.secs ∧ t.secs ≤ maxSecs ∧
    (t.nanos < 1000000000 ∨ t.nanos < 2000000000 ∧ t.secs % 60 = 59)

instance : DecidablePred Valid := fun _ => inferInstanceAs (Decidable (_ ∧ _ ∧ _))

/-- The text of an instant, through the day it falls on and its second of that day. -/
theorem rfc3339_eq (t : Timestamp) :
    let days := t.secs.fdiv 86400
    let sod := (t.secs - days * 86400).toNat
    t.rfc3339 = yearText (civilOfDays days).1 ++ "-" ++ pad 2 (civilOfDays days).2.1 ++ "-" ++
      pad 2 (civilOfDays days).2.2 ++ "T" ++ pad 2 (sod / 3600) ++ ":" ++ pad 2 (sod % 3600 / 60) ++ ":" ++
      pad 2 (sod % 60 + if t.nanos ≥ 1000000000 then 1 else 0) ++ fractionText t.nanos ++ "Z" := by
  -- naming the date's parts first keeps the check from unfolding the text functions
  rcases hc : civilOfDays (t.secs.fdiv 86400) with ⟨y, m, d⟩
  simp only [rfc3339, fields, hc]

/-- **Instants read back.** The RFC 3339 text of an instant a date can carry reads back as that
instant. -/
theorem ofRfc3339_rfc3339 {t : Timestamp} (ht : t.Valid) : ofRfc3339 t.rfc3339 = .ok t := by
  obtain ⟨secs, nanos⟩ := t
  obtain ⟨hlo, hhi, hnanos⟩ : minSecs ≤ secs ∧ secs ≤ maxSecs ∧
      (nanos < 1000000000 ∨ nanos < 2000000000 ∧ secs % 60 = 59) := ht
  obtain ⟨days, hdays⟩ : ∃ days, secs.fdiv 86400 = days := ⟨_, rfl⟩
  have hdiv : days = secs / 86400 := by
    rw [← hdays, Int.fdiv_eq_ediv, if_pos (.inl (by decide))]
    omega
  obtain ⟨sod, hsod⟩ : ∃ sod, (secs - days * 86400).toNat = sod := ⟨_, rfl⟩
  have hsod' : sod < 86400 ∧ (sod : Int) = secs - days * 86400 := by omega
  -- the day is inside the range of dates, so its date is read back
  have hmin : minSecs = daysOfCivil minYear 1 1 * 86400 := rfl
  have hmax : maxSecs = daysOfCivil maxYear 12 31 * 86400 + 86399 := rfl
  have hy := civilOfDays_year_bounds (z := days) (by omega) (by omega)
  obtain ⟨hm1, hm12, hd1, hdm⟩ := civilOfDays_isDate days
  have hback := daysOfCivil_civilOfDays days
  -- a leap second is written as second 60
  have hleap : (sod % 60 + if nanos ≥ 1000000000 then 1 else 0) = 60 ↔ nanos ≥ 1000000000 := by
    split_ifs with h <;> omega
  rw [rfc3339_eq]
  dsimp only
  rw [hdays, hsod, ofRfc3339_text nanos hy ⟨hm1, hm12⟩ ⟨hd1, hdm⟩ (by omega) (by omega)
    (by split_ifs <;> omega)]
  -- the seconds of the date and time are the instant's, and so are the nanoseconds
  all_goals rw [hback]
  · simp only [Except.ok.injEq, Timestamp.mk.injEq]
    constructor <;> split_ifs <;> omega
  all_goals split_ifs <;> omega

end Timestamp

/-- An instant a date can carry, with the proof that it can: the instants the durable stores
write as RFC 3339 text and read back. -/
abbrev Instant := {t : Timestamp // t.Valid}

end Warden
