/-!
# Durations

A span of time as whole seconds and a nanosecond part below one second, with the short text
that diagnostics print for it: seconds with a trimmed fraction when there is at least a
second, else milliseconds, microseconds or nanoseconds (`5s`, `1.5s`, `250ms`, `0ns`).
-/

namespace Warden

/-- A nonnegative span of time. The seconds are an unsigned 64-bit count. -/
structure Duration where
  secs : Nat
  nanos : Nat
  nanos_lt : nanos < 1000000000 := by omega
  deriving Repr

namespace Duration

/-- The largest count of seconds. -/
def maxSecs : Nat := 18446744073709551615

instance : BEq Duration := ⟨fun a b => a.secs == b.secs && a.nanos == b.nanos⟩

/-- The empty span. -/
def zero : Duration := ⟨0, 0, by omega⟩

/-- Whole seconds. -/
def ofSecs (s : Nat) : Duration := ⟨s, 0, by omega⟩

/-- Milliseconds. -/
def ofMillis (ms : Nat) : Duration := ⟨ms / 1000, 1000000 * (ms % 1000), by omega⟩

/-- Seconds and nanoseconds, the nanoseconds carried into seconds. -/
def ofParts (s n : Nat) : Duration := ⟨s + n / 1000000000, n % 1000000000, Nat.mod_lt _ (by omega)⟩

/-- The span in nanoseconds. -/
def toNanos (d : Duration) : Nat := 1000000000 * d.secs + d.nanos

/-- A span given in nanoseconds. -/
def ofNanos (n : Nat) : Duration := ⟨n / 1000000000, n % 1000000000, Nat.mod_lt _ (by omega)⟩

/-- `days × 86400` seconds, capped at the largest count of seconds. -/
def ofDaysSaturating (days : Nat) : Duration := ofSecs (min (86400 * days) maxSecs)

/-- Writes `n` with exactly `width` digits, padding with zeros on the left. -/
def padDigits (width n : Nat) : String :=
  let ds := Nat.toDigits 10 n
  String.ofList (List.replicate (width - ds.length) '0' ++ ds)

/-- A whole part, a fraction of `width` digits with its trailing zeros dropped, and a unit. -/
def withFraction (whole frac width : Nat) (unit : String) : String :=
  let digits := ((padDigits width frac).toList.reverse.dropWhile (· = '0')).reverse
  if digits.isEmpty then toString whole ++ unit
  else toString whole ++ "." ++ String.ofList digits ++ unit

/-- The short text of a span. -/
def text (d : Duration) : String :=
  if d.secs > 0 then withFraction d.secs d.nanos 9 "s"
  else if d.nanos ≥ 1000000 then withFraction (d.nanos / 1000000) (d.nanos % 1000000) 6 "ms"
  else if d.nanos ≥ 1000 then withFraction (d.nanos / 1000) (d.nanos % 1000) 3 "µs"
  else toString d.nanos ++ "ns"

example : (ofParts 1 500000000).text = "1.5s" ∧ zero.text = "0ns" ∧ (ofMillis 250).text = "250ms" := by
  decide

end Duration

end Warden
