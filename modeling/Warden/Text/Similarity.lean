/-!
# Similarity of names

When a command line names something that does not exist, the closest existing names are
offered instead. Closeness is the Jaro similarity of the two texts, taken over characters:
with `m` characters of one text matched by equal characters of the other no further apart
than half the longer length less one, and `t` half the number of matched characters that
appear in a different order, the similarity is the mean of `m / |a|`, `m / |b|` and
`(m - t) / m`, and zero when nothing matches. Two empty texts are identical.

A name is offered when its similarity is above `7/10`. The score is kept as an exact fraction,
so the threshold and the ordering of offers are decided without rounding.
-/

namespace Warden

namespace Text

/-- An exact similarity score `num / den`, with a positive denominator. -/
structure Score where
  num : Nat
  den : Nat
  deriving DecidableEq, Repr

namespace Score

/-- Whether one score is below another. -/
def lt (a b : Score) : Bool := a.num * b.den < b.num * a.den

/-- Whether a score is above `7/10`. -/
def offered (s : Score) : Bool := 7 * s.den < 10 * s.num

end Score

/-- Matches the characters of `a` against those of `b` within the window, each character of
`b` at most once and always the first free one; gives the flags of both sides. -/
def jaroFlags (a b : Array Char) : Array Bool × Array Bool :=
  let range := max a.size b.size / 2 - 1
  (List.range a.size).foldl (fun (af, bf) i =>
    let lo := i - range
    let hi := min b.size (i + range + 1)
    let c := a.getD i ' '
    match (List.range' lo (hi - lo)).find? (fun j => b.getD j ' ' == c && !bf.getD j true) with
    | some j => (af.set! i true, bf.set! j true)
    | none => (af, bf))
    (Array.replicate a.size false, Array.replicate b.size false)

/-- The characters whose flag is set, in order. -/
def flagged (cs : Array Char) (flags : Array Bool) : List Char :=
  (cs.toList.zip flags.toList).filterMap (fun (c, f) => if f then some c else none)

/-- The number of positions where two lists differ. -/
def mismatches : List Char → List Char → Nat
  | x :: xs, y :: ys => (if x == y then 0 else 1) + mismatches xs ys
  | _, _ => 0

/-- The Jaro similarity of two texts. -/
def jaro (s t : String) : Score :=
  let a := s.toList.toArray
  let b := t.toList.toArray
  if a.size = 0 ∧ b.size = 0 then ⟨1, 1⟩
  else if a.size = 0 ∨ b.size = 0 then ⟨0, 1⟩
  else
    let (af, bf) := jaroFlags a b
    let ma := flagged a af
    let m := ma.length
    if m = 0 then ⟨0, 1⟩
    else
      let tr := mismatches ma (flagged b bf) / 2
      ⟨m * m * b.size + m * m * a.size + (m - tr) * a.size * b.size, 3 * a.size * b.size * m⟩

/-- Inserts a scored name after every name of a lower or equal score. -/
def insertScored (x : Score × String) : List (Score × String) → List (Score × String)
  | [] => [x]
  | y :: ys => if x.1.lt y.1 then x :: y :: ys else y :: insertScored x ys

/-- The names close to a text, least similar first; equally similar names keep their order. -/
def similarNames (s : String) (names : List String) : List String :=
  let scored := (names.map (fun n => (jaro s n, n))).filter (·.1.offered)
  (scored.foldl (fun acc x => insertScored x acc) []).map (·.2)

end Text

end Warden
