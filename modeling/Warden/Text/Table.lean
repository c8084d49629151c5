/-!
# Code point tables

A Unicode property is a set of code points. It is stored as a sorted array of disjoint closed
ranges, `(lo, hi)` with both ends in the set; membership is a search by halving.

Case mappings are stored the same way, as runs: a run `⟨lo, hi, step, delta⟩` maps every point
`lo, lo + step, …` up to `hi` to itself plus `delta`.

The tables are written out as array literals, so that a fact about one of them (say, which of
its points lie below 128) can be checked by evaluating the table.
-/

namespace Warden.Text

/-- A sorted array of disjoint closed ranges of code points. -/
structure RangeTable where
  ranges : Array (Nat × Nat)

namespace RangeTable

/-- Whether `n` lies in one of the ranges with index in `[lo, hi)`. The ranges are sorted, so
the middle one tells which half can hold `n`. -/
def memBetween (rs : Array (Nat × Nat)) (n lo hi : Nat) : Bool :=
  if lo < hi then
    let mid := (lo + hi) / 2
    let r := rs.getD mid (0, 0)
    if n < r.1 then memBetween rs n lo mid
    else if r.2 < n then memBetween rs n (mid + 1) hi
    else true
  else false
termination_by hi - lo

/-- Membership of a code point. -/
def contains (t : RangeTable) (n : Nat) : Bool :=
  memBetween t.ranges n 0 t.ranges.size

end RangeTable

/-- One run of a case mapping: the points `lo, lo + step, …, hi` move by `delta`. -/
structure CaseRun where
  lo : Nat
  hi : Nat
  step : Nat
  delta : Int

/-- A sorted array of case-mapping runs whose spans do not overlap. -/
structure CaseTable where
  runs : Array CaseRun

namespace CaseTable

/-- The run with index in `[lo, hi)` whose span holds `n`, if any. -/
def findBetween (rs : Array CaseRun) (n lo hi : Nat) : Option CaseRun :=
  if lo < hi then
    let mid := (lo + hi) / 2
    let r := rs.getD mid ⟨0, 0, 1, 0⟩
    if n < r.lo then findBetween rs n lo mid
    else if r.hi < n then findBetween rs n (mid + 1) hi
    else some r
  else none
termination_by hi - lo

/-- The image of a code point, if the mapping moves it. -/
def image? (t : CaseTable) (n : Nat) : Option Nat :=
  match findBetween t.runs n 0 t.runs.size with
  | some r =>
    if (n - r.lo) % r.step = 0 then some (Int.toNat (n + r.delta)) else none
  | none => none

end CaseTable

end Warden.Text
