import Warden.Number.Binary64

/-!
# Shortest decimal text

The text of a binary64 value with the fewest significant digits that read back as the same
value, written in positional notation (no exponent): `1.5`, `1000`, `0.0000001`.

For a value `v`, the reals that round to `v` form an interval around it; its ends belong to it
exactly when the significand is even. For one digit, then two, and so on, the two neighbours
of `v` on the decimal grid of that many significant digits are tested against the interval in
exact arithmetic; the first count with a neighbour inside wins, and of two neighbours inside
the nearer one is taken (the even one on a tie). Seventeen digits always suffice.
-/

namespace Warden

namespace Binary64

/-- The reals rounding to the finite positive value `m · 2^e`, as `(low, high, closed)` with
both ends over the common denominator `den`. -/
def roundingInterval (m : Nat) (e : Int) : Nat × Nat × Nat × Bool :=
  -- work in units of 2^(e-2)
  let lowGap : Nat := if m = Nat.pow 2 52 ∧ e > minExp then 1 else 2
  let lo := 4 * m - lowGap
  let hi := 4 * m + 2
  let (a, b) := powTwo (e - 2)
  (lo * a, hi * a, b, m % 2 = 0)

/-- The largest `k` with `10^k ≤ p / q`, for `p, q > 0`. -/
def decimalExponent (p q : Nat) : Int :=
  let guess : Int := ((Nat.toDigits 10 p).length : Int) - ((Nat.toDigits 10 q).length : Int)
  -- `10^k ≤ p / q` as a test on naturals
  let atMost (k : Int) : Bool :=
    if k ≥ 0 then Nat.pow 10 k.toNat * q ≤ p else q ≤ p * Nat.pow 10 (-k).toNat
  if atMost guess then (if atMost (guess + 1) then guess + 1 else guess)
  else if atMost (guess - 1) then guess - 1 else guess - 2

/-- The same number `d · 10^x` with the trailing zeros of `d` moved into the exponent. -/
def trimZeros (d : Nat) (x : Int) : Nat × Int :=
  let zeros := ((Nat.toDigits 10 d).reverse.takeWhile (· = '0')).length
  (d / Nat.pow 10 zeros, x + zeros)

/-- The shortest digits of a finite positive value `p / q` lying in the interval `[lo, hi] / den`
(open ends unless `closed`): the digits as a number and the power of ten of the last digit.
Rounding up may carry into a new leading digit (`99` up to `100`), so the digits found are
trimmed of trailing zeros. -/
def shortestDigits (p q lo hi den : Nat) (closed : Bool) : Nat × Int :=
  let top := decimalExponent p q
  let inside (d : Nat) (x : Int) : Bool :=
    -- `d · 10^x` against `lo / den` and `hi / den`
    let (num, dnm) : Nat × Nat := if x ≥ 0 then (d * Nat.pow 10 x.toNat, 1) else (d, Nat.pow 10 (-x).toNat)
    let aboveLow := if closed then num * den ≥ lo * dnm else num * den > lo * dnm
    let belowHigh := if closed then num * den ≤ hi * dnm else num * den < hi * dnm
    aboveLow && belowHigh
  let rec search (k : Nat) (fuel : Nat) : Nat × Int :=
    match fuel with
    | 0 => (0, 0)
    | fuel + 1 =>
      let x : Int := top - k + 1
      -- `v / 10^x` as `num / dnm`
      let (num, dnm) : Nat × Nat := if x ≥ 0 then (p, q * Nat.pow 10 x.toNat) else (p * Nat.pow 10 (-x).toNat, q)
      let down := num / dnm
      let up := if num % dnm = 0 then down else down + 1
      let dIn := down > 0 && inside down x
      let uIn := inside up x
      if dIn && uIn then
        -- the nearer neighbour; on a tie the even one
        let twice := 2 * num
        if twice < (down + up) * dnm then (down, x)
        else if twice > (down + up) * dnm then (up, x)
        else if down % 2 = 0 then (down, x) else (up, x)
      else if dIn then (down, x)
      else if uIn then (up, x)
      else search (k + 1) fuel
  let (d, x) := search 1 17
  trimZeros d x

/-- Positional text of `d · 10^x`, without sign. -/
def positional (d : Nat) (x : Int) : String :=
  let ds := Nat.toDigits 10 d
  if x ≥ 0 then String.ofList (ds ++ List.replicate x.toNat '0')
  else
    let n := (-x).toNat
    if n < ds.length then String.ofList (ds.take (ds.length - n) ++ '.' :: ds.drop (ds.length - n))
    else String.ofList ('0' :: '.' :: (List.replicate (n - ds.length) '0' ++ ds))

/-- The shortest positional text of a value: `NaN`, `inf` and `-inf` for the special values,
and a minus sign before negative values, negative zero included. -/
def text : Binary64 → String
  | nan => "NaN"
  | infinite neg => if neg then "-inf" else "inf"
  | finite neg 0 _ => if neg then "-0" else "0"
  | finite neg m e =>
    let (a, b) := powTwo e
    let (lo, hi, den, closed) := roundingInterval m e
    let (d, x) := shortestDigits (m * a) b lo hi den closed
    (if neg then "-" else "") ++ positional d x

/-- The text with `.0` added when it shows no decimal point, as number diagnostics write a
float. -/
def textWithPoint (v : Binary64) : String :=
  let t := v.text
  if v.isFinite && !t.toList.contains '.' then t ++ ".0" else t

/-- The shortest digits and the power of ten of the last one, for a finite nonzero value. -/
def digitsOf (m : Nat) (e : Int) : Nat × Int :=
  let (a, b) := powTwo e
  let (lo, hi, den, closed) := roundingInterval m e
  shortestDigits (m * a) b lo hi den closed

/-- The exponent of a compact text: its sign always written (`+16`, `-7`). -/
def exponentText (k : Int) : String :=
  if k < 0 then toString k else "+" ++ toString k

/-- The compact text that data files use for a float: positional with a trailing `.0` up to
sixteen integer digits, positional for values down to `0.00001`, and otherwise one digit or a
point-separated significand followed by `e` and the signed exponent (`1e+16`, `1.5e-7`). -/
def compactText : Binary64 → String
  | nan => "NaN"
  | infinite neg => if neg then "-inf" else "inf"
  | finite neg 0 _ => if neg then "-0.0" else "0.0"
  | finite neg m e =>
    let (d, x) := digitsOf m e
    let ds := Nat.toDigits 10 d
    let len : Int := ds.length
    let kk := len + x
    let body :=
      if 0 ≤ x ∧ kk ≤ 16 then String.ofList (ds ++ List.replicate x.toNat '0') ++ ".0"
      else if 0 < kk ∧ kk ≤ 16 then
        String.ofList (ds.take kk.toNat ++ '.' :: ds.drop kk.toNat)
      else if -5 < kk ∧ kk ≤ 0 then
        String.ofList ('0' :: '.' :: (List.replicate (-kk).toNat '0' ++ ds))
      else if ds.length = 1 then String.ofList ds ++ "e" ++ exponentText (kk - 1)
      else String.ofList (ds.take 1 ++ '.' :: ds.drop 1) ++ "e" ++ exponentText (kk - 1)
    (if neg then "-" else "") ++ body

end Binary64

end Warden
