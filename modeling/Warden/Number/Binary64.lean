/-!
# Binary64 numbers

IEEE 754 double precision values, held exactly: a finite value is `(-1)^neg · m · 2^e` with
an integer significand `m < 2^53` and `-1074 ≤ e ≤ 971`, kept normal (`m ≥ 2^52`) whenever
`e > -1074`. Every operation is done on exact rationals and rounded once, to the nearest value
and to an even significand on a tie, which is what the hardware does for the one operation.
This gives correctly rounded reading of decimals, products, quotients and the conversions
that cut a value to an integer.
-/

namespace Warden

/-- A binary64 value. -/
inductive Binary64 where
  | finite (neg : Bool) (m : Nat) (e : Int)
  | infinite (neg : Bool)
  | nan
  deriving DecidableEq, Repr, Inhabited

namespace Binary64

/-- The significand bound `2^53`. -/
def twoPow53 : Nat := 9007199254740992

/-- The least exponent. -/
def minExp : Int := -1074

/-- The greatest exponent of a finite value. -/
def maxExp : Int := 971

/-- Zero with a sign. -/
def zero (neg : Bool) : Binary64 := finite neg 0 minExp

/-- `num / den` rounded to the nearest integer, a tie going to the even neighbour. -/
def roundHalfEven (num den : Nat) : Nat :=
  let q := num / den
  let r := num % den
  if 2 * r < den then q
  else if 2 * r > den then q + 1
  else if q % 2 = 0 then q else q + 1

/-- `2^e` as a numerator and denominator. -/
def powTwo (e : Int) : Nat × Nat :=
  if e ≥ 0 then (Nat.pow 2 e.toNat, 1) else (1, Nat.pow 2 (-e).toNat)

/-- The value `p / q` (with `q > 0`), rounded to a binary64 value. -/
def ofRat (neg : Bool) (p q : Nat) : Binary64 :=
  if p = 0 || q = 0 then zero neg
  else
    let guess : Int := (Nat.log2 p : Int) - (Nat.log2 q : Int) - 52
    -- the scaled value `p / (q · 2^e)` must reach `2^52`
    let reaches (e : Int) : Bool :=
      let (a, b) := powTwo e
      p * b ≥ Nat.pow 2 52 * q * a
    let e0 := if reaches guess then guess else guess - 1
    let e := max e0 minExp
    let (a, b) := powTwo e
    let m := roundHalfEven (p * b) (q * a)
    let (m, e) := if m ≥ twoPow53 then (m / 2, e + 1) else (m, e)
    if e > maxExp then infinite neg else finite neg m e

/-- The exact value of a finite number as a signed numerator and a denominator. -/
def toRat : Binary64 → Option (Bool × Nat × Nat)
  | finite neg m e => let (a, b) := powTwo e; some (neg, m * a, b)
  | _ => none

/-- A natural number, rounded. -/
def ofNat (n : Nat) : Binary64 := ofRat false n 1

/-- Negation. -/
def neg : Binary64 → Binary64
  | finite s m e => finite (!s) m e
  | infinite s => infinite (!s)
  | nan => nan

/-- Whether the value is finite. -/
def isFinite : Binary64 → Bool
  | finite .. => true
  | _ => false

/-- Whether the value is zero of either sign. -/
def isZero : Binary64 → Bool
  | finite _ 0 _ => true
  | _ => false

/-- The rounded product. -/
def mul : Binary64 → Binary64 → Binary64
  | finite s m e, finite t n f =>
    let (a, b) := powTwo (e + f)
    ofRat (s != t) (m * n * a) b
  | nan, _ | _, nan => nan
  | infinite s, finite t n _ | finite t n _, infinite s =>
    if n = 0 then nan else infinite (s != t)
  | infinite s, infinite t => infinite (s != t)

/-- The rounded quotient. -/
def div : Binary64 → Binary64 → Binary64
  | finite s m e, finite t n f =>
    if n = 0 then (if m = 0 then nan else infinite (s != t))
    else
      let (a, b) := powTwo (e - f)
      ofRat (s != t) (m * a) (n * b)
  | nan, _ | _, nan => nan
  | infinite _, infinite _ => nan
  | infinite s, finite t _ _ => infinite (s != t)
  | finite s _ _, infinite t => zero (s != t)

/-- `digits · 10^exp10`, correctly rounded, for a decimal read from text. Magnitudes far
outside the range are decided without building their powers. -/
def ofDecimal (neg : Bool) (digits : Nat) (exp10 : Int) : Binary64 :=
  if digits = 0 then zero neg
  else
    let size : Int := (Nat.toDigits 10 digits).length
    if exp10 + size > 310 then infinite neg
    else if exp10 + size < -330 then zero neg
    else if exp10 ≥ 0 then ofRat neg (digits * Nat.pow 10 exp10.toNat) 1
    else ofRat neg digits (Nat.pow 10 (-exp10).toNat)

/-- The value cut toward zero to an unsigned 64-bit integer: negative values and NaN give
zero, values past the top give the top. -/
def toU64Saturating : Binary64 → Nat
  | finite true _ _ => 0
  | finite false m e =>
    let (a, b) := powTwo e
    min (m * a / b) 18446744073709551615
  | infinite false => 18446744073709551615
  | infinite true => 0
  | nan => 0

/-- The value cut toward zero to a signed 64-bit integer, saturating at both ends; NaN gives
zero. -/
def toI64Saturating : Binary64 → Int
  | finite neg m e =>
    let (a, b) := powTwo e
    let t : Nat := m * a / b
    if neg then max (-(t : Int)) (-9223372036854775808) else min (t : Int) 9223372036854775807
  | infinite false => 9223372036854775807
  | infinite true => -9223372036854775808
  | nan => 0

/-- The value rounded to the nearest integer (a half away from zero), as a natural number, for
a finite nonnegative value. -/
def roundAwayNat : Binary64 → Nat
  | finite false m e =>
    let (a, b) := powTwo e
    (2 * m * a + b) / (2 * b)
  | _ => 0

/-- Comparison of finite values: `a < b`. -/
def ltRat (a b : Bool × Nat × Nat) : Bool :=
  let (s, p, q) := a
  let (t, r, u) := b
  let x : Int := if s then -((p * u : Nat) : Int) else ((p * u : Nat) : Int)
  let y : Int := if t then -((r * q : Nat) : Int) else ((r * q : Nat) : Int)
  x < y

end Binary64

end Warden
