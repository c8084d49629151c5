import Warden.Text.Blank

/-!
# Timestamps

An instant of UTC time as seconds since 1970-01-01T00:00:00Z and a nanosecond part. The
nanosecond part may reach up to two seconds only to carry a leap second, which is written as
second 60 of its minute.

Dates are proleptic Gregorian. The civil date of a day number uses the era decomposition of
the calendar into 400-year cycles of 146097 days, in which the month pattern repeats from
March on; it is exact for every integer day.

This module holds the two printed forms of an instant (RFC 3339 with `Z`, and the spaced
`YYYY-MM-DD HH:MM:SS` listing form) and the relaxed reading of RFC 3339 text.
-/

namespace Warden

/-- An instant of UTC time. -/
structure Timestamp where
  secs : Int
  nanos : Nat
  deriving DecidableEq, Repr

namespace Timestamp

/-- Instants are ordered by seconds, then by the nanosecond part. -/
def lt (a b : Timestamp) : Bool :=
  a.secs < b.secs || (a.secs == b.secs && a.nanos < b.nanos)

/-- The day number (days since 1970-01-01) of a proleptic Gregorian date. -/
def daysOfCivil (y : Int) (m d : Nat) : Int :=
  let y := if m ≤ 2 then y - 1 else y
  let era := y.fdiv 400
  let yoe := y - era * 400
  let mp : Int := if m > 2 then m - 3 else m + 9
  let doy := (153 * mp + 2) / 5 + d - 1
  let doe := yoe * 365 + yoe / 4 - yoe / 100 + doy
  era * 146097 + doe - 719468

/-- The proleptic Gregorian date `(year, month, day)` of a day number. -/
def civilOfDays (z : Int) : Int × Nat × Nat :=
  let z := z + 719468
  let era := z.fdiv 146097
  let doe := z - era * 146097
  let yoe := (doe - doe / 1460 + doe / 36524 - doe / 146096) / 365
  let y := yoe + era * 400
  let doy := doe - (365 * yoe + yoe / 4 - yoe / 100)
  let mp := (5 * doy + 2) / 153
  let d := doy - (153 * mp + 2) / 5 + 1
  let m := if mp < 10 then mp + 3 else mp - 9
  ((if m ≤ 2 then y + 1 else y), m.toNat, d.toNat)

/-- Whether a year of the proleptic Gregorian calendar is a leap year. -/
def isLeapYear (y : Int) : Bool :=
  (y % 4 == 0 && y % 100 != 0) || y % 400 == 0

/-- The number of days in a month. -/
def daysInMonth (y : Int) (m : Nat) : Nat :=
  match m with
  | 2 => if isLeapYear y then 29 else 28
  | 4 | 6 | 9 | 11 => 30
  | _ => 31

/-- The smallest and largest years that a date may carry. -/
def minYear : Int := -262143
def maxYear : Int := 262142

/-- The first and last instants that can be represented. -/
def minSecs : Int := daysOfCivil minYear 1 1 * 86400
def maxSecs : Int := daysOfCivil maxYear 12 31 * 86400 + 86399

/-- Date and time of day of an instant: `(year, month, day, hour, minute, second)`, where a
leap second shows as second 60. -/
def fields (t : Timestamp) : Int × Nat × Nat × Nat × Nat × Nat :=
  let days := t.secs.fdiv 86400
  let sod := (t.secs - days * 86400).toNat
  let (y, m, d) := civilOfDays days
  let sec := sod % 60 + (if t.nanos ≥ 1000000000 then 1 else 0)
  (y, m, d, sod / 3600, sod % 3600 / 60, sec)

/-- `n` with at least `width` digits, zeros on the left. -/
def pad (width n : Nat) : String :=
  let ds := Nat.toDigits 10 n
  String.ofList (List.replicate (width - ds.length) '0' ++ ds)

/-- A year in four digits inside `0..9999`, else with its sign and at least four digits. -/
def yearText (y : Int) : String :=
  if 0 ≤ y ∧ y ≤ 9999 then pad 4 y.toNat
  else if y < 0 then "-" ++ pad 4 y.natAbs
  else "+" ++ pad 4 y.toNat

/-- The fraction of a second in the fewest of 0, 3, 6 or 9 digits that hold it exactly. -/
def fractionText (nanos : Nat) : String :=
  let n := nanos % 1000000000
  if n == 0 then ""
  else if n % 1000000 == 0 then "." ++ pad 3 (n / 1000000)
  else if n % 1000 == 0 then "." ++ pad 6 (n / 1000)
  else "." ++ pad 9 n

/-- RFC 3339 text in UTC with a `Z`: `2019-01-01T00:00:00.123400Z`. -/
def rfc3339 (t : Timestamp) : String :=
  let (y, m, d, hh, mm, ss) := t.fields
  yearText y ++ "-" ++ pad 2 m ++ "-" ++ pad 2 d ++ "T" ++ pad 2 hh ++ ":" ++ pad 2 mm ++ ":"
    ++ pad 2 ss ++ fractionText t.nanos ++ "Z"

/-- The listing form `2019-05-01 00:00:00`, without fraction or zone. -/
def spaced (t : Timestamp) : String :=
  let (y, m, d, hh, mm, ss) := t.fields
  let yearPart := if 0 ≤ y ∧ y ≤ 9999 then pad 4 y.toNat
    else if y < 0 then "-" ++ pad 4 y.natAbs else "+" ++ toString y
  yearPart ++ "-" ++ pad 2 m ++ "-" ++ pad 2 d ++ " " ++ pad 2 hh ++ ":" ++ pad 2 mm ++ ":"
    ++ pad 2 ss

/-! ## Reading -/

/-- Why a text is not a timestamp. -/
inductive ReadError where
  | outOfRange
  | impossible
  | notEnough
  | invalid
  | tooShort
  | tooLong
  deriving DecidableEq, Repr

/-- The message of a reading error. -/
def ReadError.message : ReadError → String
  | .outOfRange => "input is out of range"
  | .impossible => "no possible date and time matching input"
  | .notEnough => "input is not enough for a unique date and time"
  | .invalid => "input contains invalid characters"
  | .tooShort => "premature end of input"
  | .tooLong => "trailing input"

/-- The length of characters in UTF-8 bytes. -/
def byteLength (cs : List Char) : Nat := cs.foldl (fun n c => n + c.utf8Size) 0

/-- Digits at the front of `cs`: at least `lo` and at most `hi` of them, as a number. A value
that passes the signed 64-bit range is out of range. -/
def takeNumber (cs : List Char) (lo hi : Nat) : Except ReadError (Nat × List Char) :=
  if byteLength cs < lo then .error .tooShort
  else
    let ds := (cs.take hi).takeWhile Char.isDigit
    if ds.length < lo then .error .invalid
    else
      let v := ds.foldl (fun n c => n * 10 + (c.toNat - '0'.toNat)) 0
      if v > 9223372036854775807 then .error .outOfRange
      else .ok (v, cs.drop ds.length)

/-- A number field after optional blanks, checked against a closed range. -/
def field (cs : List Char) (width lo hi : Nat) : Except ReadError (Nat × List Char) := do
  let (v, rest) ← takeNumber (cs.dropWhile Text.isBlank) 1 width
  if v < lo || v > hi then throw .outOfRange
  return (v, rest)

/-- A literal character after optional blanks. -/
def literal (cs : List Char) (c : Char) : Except ReadError (List Char) :=
  match cs.dropWhile Text.isBlank with
  | [] => .error .tooShort
  | d :: rest => if d = c then .ok rest else .error .invalid

/-- The year: a sign allows any number of digits, else at most four. -/
def yearField (cs : List Char) : Except ReadError (Int × List Char) := do
  let cs := cs.dropWhile Text.isBlank
  let (v, rest) ← match cs with
    | '-' :: r => do let (n, r) ← takeNumber r 1 cs.length; pure ((-(n : Int)), r)
    | '+' :: r => do let (n, r) ← takeNumber r 1 cs.length; pure ((n : Int), r)
    | _ => do let (n, r) ← takeNumber cs 1 4; pure ((n : Int), r)
  if v < -2147483648 || v > 2147483647 then throw .outOfRange
  return (v, rest)

/-- The fraction of a second after a point: one to nine digits scaled to nanoseconds, further
digits ignored. -/
def fractionField (cs : List Char) : Except ReadError (Nat × List Char) := do
  let (v, rest) ← takeNumber cs 1 9
  let used := cs.length - rest.length
  return (v * Nat.pow 10 (9 - used), rest.dropWhile Char.isDigit)

/-- Two ASCII digits. -/
def twoDigits : List Char → Option (Nat × Nat)
  | a :: b :: _ => if a.isDigit && b.isDigit then some (a.toNat - 48, b.toNat - 48) else none
  | _ => none

/-- A zone offset in seconds east of UTC: `Z`, or a sign, two hour digits, an optional colon
or blanks, and two minute digits. -/
def offsetField (cs : List Char) : Except ReadError (Int × List Char) :=
  match cs with
  | 'Z' :: rest | 'z' :: rest => .ok (0, rest)
  | [] => .error .tooShort
  | c :: rest =>
    let sign : Option Int :=
      if c = '+' then some 1 else if c = '-' || c = '−' then some (-1) else none
    match sign with
    | none => .error .invalid
    | some sgn =>
      if byteLength rest < 2 then .error .tooShort
      else match twoDigits rest with
        | none => .error .invalid
        | some (h1, h2) =>
          let afterHours := (rest.drop 2).dropWhile (fun c => c = ':' || Text.isBlank c)
          if byteLength afterHours < 2 then .error .tooShort
          else match afterHours with
            | m1 :: m2 :: more =>
              if m1.isDigit && m2.isDigit then
                if m1.toNat - 48 ≥ 6 then .error .outOfRange
                else .ok (sgn * ((h1 * 10 + h2) * 3600 + ((m1.toNat - 48) * 10 + (m2.toNat - 48)) * 60), more)
              else .error .invalid
            | _ => .error .tooShort

/-- Whether the text starts with `UTC` in any letter case. -/
def startsWithUtc : List Char → Bool
  | a :: b :: c :: _ => a.toUpper = 'U' && b.toUpper = 'T' && c.toUpper = 'C'
  | _ => false

/-- Reads RFC 3339 text, relaxed: blanks may stand before each number and separator, the
date and time may be split by `T`, `t` or a space, the month and day may have one digit,
the zone may be `Z`, `z`, `UTC` or a numeric offset, and the result is taken to UTC. -/
def ofRfc3339 (s : String) : Except ReadError Timestamp := do
  let cs := s.toList
  let (y, cs) ← yearField cs
  let cs ← literal cs '-'
  let (mo, cs) ← field cs 2 1 12
  let cs ← literal cs '-'
  let (d, cs) ← field cs 2 1 31
  let cs ← match cs with
    | 'T' :: r | 't' :: r | ' ' :: r => pure r
    | [] => throw .tooShort
    | _ => throw .invalid
  let (hh, cs) ← field cs 2 0 23
  let cs ← literal cs ':'
  let (mm, cs) ← field cs 2 0 59
  let cs ← literal cs ':'
  let (ss, cs) ← field cs 2 0 60
  let (nanos, cs) ← match cs with
    | '.' :: r => fractionField r
    | _ => pure (0, cs)
  let cs := cs.dropWhile Text.isBlank
  let (offset, cs) ← if startsWithUtc cs then pure (0, cs.drop 3) else offsetField cs
  if !(cs.dropWhile Text.isBlank).isEmpty then throw .tooLong
  if y < minYear || y > maxYear || d > daysInMonth y mo then throw .outOfRange
  if offset.natAbs ≥ 86400 then throw .outOfRange
  let (sec, nanos) := if ss = 60 then (59, nanos + 1000000000) else (ss, nanos)
  let wall := daysOfCivil y mo d * 86400 + (hh * 3600 + mm * 60 + sec : Nat)
  let utc := wall - offset
  if utc < minSecs || utc > maxSecs then throw .impossible
  return ⟨utc, nanos⟩

end Timestamp

end Warden
