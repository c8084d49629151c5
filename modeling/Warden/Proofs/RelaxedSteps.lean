import Mathlib
import Warden.Relaxed.Grammar

/-!
# Steps of the relaxed reader

The reader of the relaxed syntax runs in a state of its own: a position, and a record of the
furthest failures of named rules, which only the report of a failure reads. So what a parser
does is stated for a start position and *any* record: it takes the text up to a position and
yields a value (`Takes`), refuses and puts the position back where it was (`Misses`), or refuses
and leaves the position anywhere (`Fails`). Ordered choice needs the middle one: its second
branch starts where the first one stopped, so a choice behaves as a choice only when the first
branch puts the position back, which `undoable` makes sure of (`Fails.undoable`).

Positions are read against what remains of the input (`after`): a parser that takes `w` from
`after input i = w ++ r` stops at `i + w.length`, with `r` left (`after_append`).

## The loop

`many` repeats a parser while it moves on, with fuel for one step per character left. `Runs` is
a finished run of such a loop: steps that each move on, then a refusal that puts the position
back. The fuel always suffices for it (`Runs.takes_many`).
-/

namespace Warden.Relaxed

/-- What remains of the input from a position on. -/
def after (input : Array Char) (i : Nat) : List Char := input.toList.drop i

theorem getElem?_eq_head?_after (input : Array Char) (i : Nat) :
    input[i]? = (after input i).head? := by
  rw [after, List.head?_drop, Array.getElem?_toList]

/-- Taking `w` from what remains at `i` leaves the rest at `i + w.length`. -/
theorem after_append {input : Array Char} {i : Nat} {w r : List Char} (h : after input i = w ++ r) :
    after input (i + w.length) = r := by
  have hdrop : after input (i + w.length) = (after input i).drop w.length := by
    simp only [after, List.drop_drop]
  rw [hdrop, h, List.drop_left]

theorem length_le_of_after {input : Array Char} {i : Nat} {w r : List Char} (h : after input i = w ++ r) :
    w.length ≤ input.size - i := by
  have hlen := congrArg List.length h
  simp only [after, List.length_drop, Array.length_toList, List.length_append] at hlen
  omega

/-- Running a parser on an input from a scan: its outcome, and the scan it leaves. -/
def go {α : Type} (p : Parse α) (input : Array Char) (s : Scan) : Except Unit α × Scan :=
  (p input).run s

section Run

variable {α β : Type} {input : Array Char} {s s' : Scan}

theorem go_bind_ok {x : Parse α} {f : α → Parse β} {a : α} (hx : go x input s = (.ok a, s')) :
    go (x >>= f) input s = go (f a) input s' := by
  simp only [go, ExceptT.run] at hx ⊢
  simp only [bind, ReaderT.bind, ExceptT.bind, ExceptT.mk, StateT.bind, ExceptT.bindCont, hx]

theorem go_bind_error {x : Parse α} {f : α → Parse β} (hx : go x input s = (.error (), s')) :
    go (x >>= f) input s = (.error (), s') := by
  simp only [go, ExceptT.run] at hx ⊢
  simp only [bind, ReaderT.bind, ExceptT.bind, ExceptT.mk, StateT.bind, ExceptT.bindCont, hx]
  rfl

theorem go_tryCatch_ok {x : Parse α} {h : Unit → Parse α} {a : α} (hx : go x input s = (.ok a, s')) :
    go (tryCatch x h) input s = (.ok a, s') := by
  simp only [go, ExceptT.run] at hx ⊢
  show ExceptT.tryCatch (x input) (fun e => h e input) s = _
  simp only [ExceptT.tryCatch, ExceptT.mk, bind, StateT.bind, hx]
  rfl

theorem go_tryCatch_error {x : Parse α} {h : Unit → Parse α} (hx : go x input s = (.error (), s')) :
    go (tryCatch x h) input s = go (h ()) input s' := by
  simp only [go, ExceptT.run] at hx ⊢
  show ExceptT.tryCatch (x input) (fun e => h e input) s = _
  simp only [ExceptT.tryCatch, ExceptT.mk, bind, StateT.bind, hx]

theorem go_pure (a : α) : go (pure a : Parse α) input s = (.ok a, s) := rfl

theorem go_miss : go (miss : Parse α) input s = (.error (), s) := rfl

theorem go_modify (f : Scan → Scan) : go (modify f : Parse Unit) input s = (.ok (), f s) := rfl

theorem go_moveTo (p : Nat) : go (moveTo p) input s = (.ok (), { s with pos := p }) := rfl

theorem go_map_ok {x : Parse α} {a : α} (f : α → β) (hx : go x input s = (.ok a, s')) :
    go (f <$> x) input s = (.ok (f a), s') :=
  show go (x >>= fun a => pure (f a)) input s = _ from go_bind_ok hx

theorem go_map_error {x : Parse α} (f : α → β) (hx : go x input s = (.error (), s')) :
    go (f <$> x) input s = (.error (), s') :=
  show go (x >>= fun a => pure (f a)) input s = _ from go_bind_error hx

theorem go_get_bind {g : Scan → Parse α} : go (get >>= g) input s = go (g s) input s :=
  go_bind_ok rfl

theorem go_read_bind {g : Array Char → Parse α} : go (read >>= g) input s = go (g input) input s :=
  go_bind_ok rfl

/-- Noting a failed rule changes the record of failures, never the position. -/
theorem Scan.track_pos (t : Scan) (r : Rule) (pos index before : Nat) :
    (t.track r pos index before).pos = t.pos := by
  unfold Scan.track
  dsimp only
  split_ifs <;> rfl

end Run

/-! ## Outcomes -/

section Outcomes

variable {α β : Type} {input : Array Char} {i j k : Nat}

/-- Started at `i`, with any record of failures, the parser succeeds with `a` and stops at `j`. -/
def Takes (p : Parse α) (input : Array Char) (i j : Nat) (a : α) : Prop :=
  ∀ s : Scan, s.pos = i → ∃ s' : Scan, go p input s = (.ok a, s') ∧ s'.pos = j

/-- Started at `i`, the parser refuses and puts the position back at `i`. -/
def Misses (p : Parse α) (input : Array Char) (i : Nat) : Prop :=
  ∀ s : Scan, s.pos = i → ∃ s' : Scan, go p input s = (.error (), s') ∧ s'.pos = i

/-- Started at `i`, the parser refuses, wherever it leaves the position. -/
def Fails (p : Parse α) (input : Array Char) (i : Nat) : Prop :=
  ∀ s : Scan, s.pos = i → ∃ s' : Scan, go p input s = (.error (), s')

theorem Misses.fails {p : Parse α} (h : Misses p input i) : Fails p input i := by
  intro s hs
  obtain ⟨s', hgo, -⟩ := h s hs
  exact ⟨s', hgo⟩

theorem takes_pure (a : α) : Takes (pure a : Parse α) input i i a :=
  fun s hs => ⟨s, go_pure a, hs⟩

theorem misses_miss : Misses (miss : Parse α) input i :=
  fun s hs => ⟨s, go_miss, hs⟩

theorem Takes.bind {x : Parse α} {f : α → Parse β} {a : α} {b : β} (hx : Takes x input i j a)
    (hf : Takes (f a) input j k b) : Takes (x >>= f) input i k b := by
  intro s hs
  obtain ⟨s₁, hgo₁, hpos₁⟩ := hx s hs
  obtain ⟨s₂, hgo₂, hpos₂⟩ := hf s₁ hpos₁
  exact ⟨s₂, by rw [go_bind_ok hgo₁, hgo₂], hpos₂⟩

theorem Takes.bind_fails {x : Parse α} {f : α → Parse β} {a : α} (hx : Takes x input i j a)
    (hf : Fails (f a) input j) : Fails (x >>= f) input i := by
  intro s hs
  obtain ⟨s₁, hgo₁, hpos₁⟩ := hx s hs
  obtain ⟨s₂, hgo₂⟩ := hf s₁ hpos₁
  exact ⟨s₂, by rw [go_bind_ok hgo₁, hgo₂]⟩

theorem Takes.bind_misses {x : Parse α} {f : α → Parse β} {a : α} (hx : Takes x input i i a)
    (hf : Misses (f a) input i) : Misses (x >>= f) input i := by
  intro s hs
  obtain ⟨s₁, hgo₁, hpos₁⟩ := hx s hs
  obtain ⟨s₂, hgo₂, hpos₂⟩ := hf s₁ hpos₁
  exact ⟨s₂, by rw [go_bind_ok hgo₁, hgo₂], hpos₂⟩

theorem Fails.bind {x : Parse α} {f : α → Parse β} (hx : Fails x input i) : Fails (x >>= f) input i := by
  intro s hs
  obtain ⟨s', hgo⟩ := hx s hs
  exact ⟨s', go_bind_error hgo⟩

theorem Misses.bind {x : Parse α} {f : α → Parse β} (hx : Misses x input i) : Misses (x >>= f) input i := by
  intro s hs
  obtain ⟨s', hgo, hpos⟩ := hx s hs
  exact ⟨s', go_bind_error hgo, hpos⟩

theorem Takes.seqRight {x : Parse α} {y : Parse β} {a : α} {b : β} (hx : Takes x input i j a)
    (hy : Takes y input j k b) : Takes (x *> y) input i k b :=
  show Takes (x >>= fun _ => y) input i k b from hx.bind hy

theorem Takes.seqRight_fails {x : Parse α} {y : Parse β} {a : α} (hx : Takes x input i j a)
    (hy : Fails y input j) : Fails (x *> y) input i :=
  show Fails (x >>= fun _ => y) input i from hx.bind_fails hy

theorem Fails.seqRight {x : Parse α} {y : Parse β} (hx : Fails x input i) : Fails (x *> y) input i :=
  show Fails (x >>= fun _ => y) input i from hx.bind

theorem Misses.seqRight {x : Parse α} {y : Parse β} (hx : Misses x input i) : Misses (x *> y) input i :=
  show Misses (x >>= fun _ => y) input i from hx.bind

theorem Takes.seqLeft {x : Parse α} {y : Parse β} {a : α} {b : β} (hx : Takes x input i j a)
    (hy : Takes y input j k b) : Takes (x <* y) input i k a :=
  show Takes (x >>= fun a => y >>= fun _ => pure a) input i k a from hx.bind (hy.bind (takes_pure a))

theorem Takes.seqLeft_fails {x : Parse α} {y : Parse β} {a : α} (hx : Takes x input i j a)
    (hy : Fails y input j) : Fails (x <* y) input i :=
  show Fails (x >>= fun a => y >>= fun _ => pure a) input i from hx.bind_fails hy.bind

theorem Fails.seqLeft {x : Parse α} {y : Parse β} (hx : Fails x input i) : Fails (x <* y) input i :=
  show Fails (x >>= fun a => y >>= fun _ => pure a) input i from hx.bind

theorem Takes.map {x : Parse α} {a : α} (f : α → β) (hx : Takes x input i j a) :
    Takes (f <$> x) input i j (f a) :=
  show Takes (x >>= fun a => pure (f a)) input i j (f a) from hx.bind (takes_pure _)

theorem Misses.map {x : Parse α} (f : α → β) (hx : Misses x input i) : Misses (f <$> x) input i :=
  show Misses (x >>= fun a => pure (f a)) input i from hx.bind

theorem Fails.map {x : Parse α} (f : α → β) (hx : Fails x input i) : Fails (f <$> x) input i :=
  show Fails (x >>= fun a => pure (f a)) input i from hx.bind

/-! ## Choice and backtracking -/

theorem Takes.first {p q : Parse α} {a : α} (hp : Takes p input i j a) :
    Takes (Relaxed.first p q) input i j a := by
  intro s hs
  obtain ⟨s', hgo, hpos⟩ := hp s hs
  exact ⟨s', go_tryCatch_ok hgo, hpos⟩

/-- The second branch of a choice runs where the first one put the position back. -/
theorem Misses.first_takes {p q : Parse α} {a : α} (hp : Misses p input i) (hq : Takes q input i j a) :
    Takes (Relaxed.first p q) input i j a := by
  intro s hs
  obtain ⟨s₁, hgo₁, hpos₁⟩ := hp s hs
  obtain ⟨s₂, hgo₂, hpos₂⟩ := hq s₁ hpos₁
  exact ⟨s₂, by rw [Relaxed.first, go_tryCatch_error hgo₁, hgo₂], hpos₂⟩

theorem Misses.first {p q : Parse α} (hp : Misses p input i) (hq : Misses q input i) :
    Misses (Relaxed.first p q) input i := by
  intro s hs
  obtain ⟨s₁, hgo₁, hpos₁⟩ := hp s hs
  obtain ⟨s₂, hgo₂, hpos₂⟩ := hq s₁ hpos₁
  exact ⟨s₂, by rw [Relaxed.first, go_tryCatch_error hgo₁, hgo₂], hpos₂⟩

theorem Misses.first_fails {p q : Parse α} (hp : Misses p input i) (hq : Fails q input i) :
    Fails (Relaxed.first p q) input i := by
  intro s hs
  obtain ⟨s₁, hgo₁, hpos₁⟩ := hp s hs
  obtain ⟨s₂, hgo₂⟩ := hq s₁ hpos₁
  exact ⟨s₂, by rw [Relaxed.first, go_tryCatch_error hgo₁, hgo₂]⟩

theorem Takes.orElse {p q : Parse α} {a : α} (hp : Takes p input i j a) :
    Takes (p <|> q) input i j a :=
  show Takes (Relaxed.first p q) input i j a from hp.first

theorem Misses.orElse {p q : Parse α} (hp : Misses p input i) (hq : Misses q input i) :
    Misses (p <|> q) input i :=
  show Misses (Relaxed.first p q) input i from hp.first hq

theorem Takes.undoable {p : Parse α} {a : α} (hp : Takes p input i j a) :
    Takes (Relaxed.undoable p) input i j a := by
  intro s hs
  obtain ⟨s', hgo, hpos⟩ := hp s hs
  refine ⟨s', ?_, hpos⟩
  unfold Relaxed.undoable
  rw [go_get_bind]
  exact go_tryCatch_ok hgo

/-- A parser made undoable puts the position back when it fails. -/
theorem Fails.undoable {p : Parse α} (hp : Fails p input i) : Misses (Relaxed.undoable p) input i := by
  intro s hs
  obtain ⟨s', hgo⟩ := hp s hs
  refine ⟨{ s' with pos := s.pos }, ?_, hs⟩
  unfold Relaxed.undoable
  rw [go_get_bind]
  dsimp only
  rw [go_tryCatch_error hgo, go_bind_ok (go_moveTo _), go_miss]

theorem Takes.succeeds {p : Parse α} {a : α} (hp : Takes p input i j a) :
    Takes (Relaxed.succeeds p) input i j (some a) :=
  show Takes (Relaxed.first (some <$> p) (pure none)) input i j (some a) from (hp.map some).first

theorem Misses.succeeds {p : Parse α} (hp : Misses p input i) : Takes (Relaxed.succeeds p) input i i none :=
  show Takes (Relaxed.first (some <$> p) (pure none)) input i i none from
    (hp.map some).first_takes (takes_pure _)

/-- A failed attempt yields nothing, wherever it stopped. -/
theorem Fails.succeeds {p : Parse α} (hp : Fails p input i) :
    ∀ s : Scan, s.pos = i → ∃ s' : Scan, go (Relaxed.succeeds p) input s = (.ok none, s') := by
  intro s hs
  obtain ⟨s', hgo⟩ := hp s hs
  refine ⟨s', ?_⟩
  show go (tryCatch (some <$> p) fun _ => pure none) input s = _
  rw [go_tryCatch_error (go_map_error some hgo)]
  rfl

theorem Fails.notAhead {p : Parse α} (hp : Fails p input i) : Takes (Relaxed.notAhead p) input i i () := by
  intro s hs
  obtain ⟨s', hgo⟩ := Fails.succeeds hp s hs
  refine ⟨{ s' with pos := s.pos }, ?_, hs⟩
  unfold Relaxed.notAhead
  rw [go_get_bind]
  dsimp only
  rw [go_bind_ok hgo, go_bind_ok (go_moveTo _)]
  rfl

theorem Takes.notAhead {p : Parse α} {a : α} (hp : Takes p input i j a) : Misses (Relaxed.notAhead p) input i := by
  intro s hs
  obtain ⟨s', hgo, -⟩ := hp.succeeds s hs
  refine ⟨{ s' with pos := s.pos }, ?_, hs⟩
  unfold Relaxed.notAhead
  rw [go_get_bind]
  dsimp only
  rw [go_bind_ok hgo, go_bind_ok (go_moveTo _)]
  rfl

theorem Takes.ahead {p : Parse α} {a : α} (hp : Takes p input i j a) : Takes (Relaxed.ahead p) input i i () := by
  intro s hs
  obtain ⟨s', hgo, -⟩ := hp.succeeds s hs
  refine ⟨{ s' with pos := s.pos }, ?_, hs⟩
  unfold Relaxed.ahead
  rw [go_get_bind]
  dsimp only
  rw [go_bind_ok hgo, go_bind_ok (go_moveTo _)]
  rfl

theorem Fails.ahead {p : Parse α} (hp : Fails p input i) : Misses (Relaxed.ahead p) input i := by
  intro s hs
  obtain ⟨s', hgo⟩ := Fails.succeeds hp s hs
  refine ⟨{ s' with pos := s.pos }, ?_, hs⟩
  unfold Relaxed.ahead
  rw [go_get_bind]
  dsimp only
  rw [go_bind_ok hgo, go_bind_ok (go_moveTo _)]
  rfl

theorem Takes.optional {p : Nodes} {xs : List Node} (hp : Takes p input i j xs) :
    Takes (Relaxed.optional p) input i j xs :=
  hp.first

theorem Misses.optional {p : Nodes} (hp : Misses p input i) : Takes (Relaxed.optional p) input i i [] :=
  hp.first_takes (takes_pure _)

/-! ## Characters and texts -/

theorem takes_current : Takes current input i i input[i]? := by
  intro s hs
  refine ⟨s, ?_, hs⟩
  unfold current
  rw [go_read_bind, go_get_bind, hs]
  rfl

theorem takes_charWith {ok : Char → Bool} {c : Char} {r : List Char} (h : after input i = c :: r)
    (hc : ok c = true) : Takes (charWith ok) input i (i + 1) () := by
  have hcur : input[i]? = some c := by rw [getElem?_eq_head?_after, h, List.head?_cons]
  unfold charWith
  refine takes_current.bind ?_
  rw [hcur]
  dsimp only
  rw [if_pos hc]
  intro s hs
  exact ⟨_, by rw [go_get_bind, hs]; rfl, rfl⟩

theorem misses_charWith {ok : Char → Bool} (h : ∀ c r, after input i = c :: r → ok c = false) :
    Misses (charWith ok) input i := by
  unfold charWith
  refine takes_current.bind_misses ?_
  cases hcur : input[i]? with
  | none => exact misses_miss
  | some c =>
    have hr : after input i = c :: (after input i).tail := by
      rw [getElem?_eq_head?_after] at hcur
      exact List.eq_cons_of_mem_head? hcur
    dsimp only
    rw [if_neg (by rw [h c _ hr]; decide)]
    exact misses_miss

/-- What remains at a position is the character there, then what remains after it. -/
theorem after_eq_cons {input : Array Char} {n : Nat} {d : Char} (h : input[n]? = some d) :
    after input n = d :: after input (n + 1) := by
  rw [getElem?_eq_head?_after] at h
  rw [List.eq_cons_of_mem_head? h, after, after, ← List.drop_drop, ← after, List.eq_cons_of_mem_head? h]
  rfl

theorem after_eq_nil {input : Array Char} {n : Nat} (h : input[n]? = none) : after input n = [] := by
  rw [getElem?_eq_head?_after, List.head?_eq_none_iff] at h
  exact h

/-- Matching characters from index `k` on is finding them in front of what remains there. -/
theorem all_zipIdx_iff (input : Array Char) (at_ : Nat) (cs : List Char) : ∀ k : Nat,
    ((cs.zipIdx k).all fun x => match input[at_ + x.2]? with
      | some d => d == x.1
      | none => false) = true ↔ cs <+: after input (at_ + k) := by
  induction cs with
  | nil => simp
  | cons c cs ih =>
    intro k
    rw [List.zipIdx_cons, List.all_cons, Bool.and_eq_true, ih (k + 1), ← Nat.add_assoc]
    cases hd : input[at_ + k]? with
    | none => simp [after_eq_nil hd]
    | some d =>
      simp only [after_eq_cons hd, List.cons_prefix_cons, beq_iff_eq]
      constructor <;> rintro ⟨hcd, hrest⟩ <;> exact ⟨hcd.symm, hrest⟩

/-- Spelling a text at a position, letter case kept, is finding it in front of what remains. -/
theorem spells_false_iff (input : Array Char) (at_ : Nat) (cs : List Char) :
    spells input at_ cs false = true ↔ cs <+: after input at_ :=
  all_zipIdx_iff input at_ cs 0

theorem takes_lit {t : String} {r : List Char} (h : after input i = t.toList ++ r) :
    Takes (lit t) input i (i + t.length) () := by
  intro s hs
  refine ⟨{ s with pos := i + t.length }, ?_, rfl⟩
  have hspells : spells input i t.toList false = true := (spells_false_iff input i _).2 ⟨r, h.symm⟩
  unfold lit
  rw [go_get_bind]
  dsimp only
  rw [go_read_bind, hs, if_pos hspells]
  rfl

theorem misses_lit {t : String} (h : ¬ t.toList <+: after input i) : Misses (lit t) input i := by
  intro s hs
  refine ⟨s, ?_, hs⟩
  have hspells : spells input i t.toList false = false :=
    Bool.eq_false_iff.2 fun h' => h ((spells_false_iff input i _).1 h')
  unfold lit
  rw [go_get_bind]
  dsimp only
  rw [go_read_bind, hs, if_neg (by rw [hspells]; decide)]
  rfl

theorem misses_litFolded {t : String} (h : spells input i t.toList true = false) :
    Misses (litFolded t) input i := by
  intro s hs
  refine ⟨s, ?_, hs⟩
  unfold litFolded
  rw [go_get_bind]
  dsimp only
  rw [go_read_bind, hs, if_neg (by rw [h]; decide)]
  rfl

/-! ## Named rules -/

/-- A named rule that succeeds yields one node spanning what it took. -/
theorem Takes.named {body : Nodes} {xs : List Node} (r : Rule) (keep : Bool)
    (hb : Takes body input i j xs) :
    Takes (Relaxed.named r keep body) input i j [Node.mk r i j (if keep then xs else [])] := by
  intro s hs
  obtain ⟨s', hgo, hpos⟩ := hb s hs
  refine ⟨s', ?_, hpos⟩
  unfold Relaxed.named
  rw [go_get_bind]
  dsimp only
  refine go_tryCatch_ok ?_
  rw [go_bind_ok hgo, go_get_bind, hs, hpos]
  rfl

/-- A named rule that refuses notes the failure and keeps the position. -/
theorem Misses.named {body : Nodes} (r : Rule) (keep : Bool) (hb : Misses body input i) :
    Misses (Relaxed.named r keep body) input i := by
  intro s hs
  obtain ⟨s', hgo, hpos⟩ := hb s hs
  unfold Relaxed.named
  rw [go_get_bind]
  dsimp only
  rw [go_tryCatch_error (go_bind_error hgo), go_bind_ok (go_modify _), go_miss]
  exact ⟨_, rfl, by rw [Scan.track_pos, hpos]⟩

theorem Fails.named {body : Nodes} (r : Rule) (keep : Bool) (hb : Fails body input i) :
    Fails (Relaxed.named r keep body) input i := by
  intro s hs
  obtain ⟨s', hgo⟩ := hb s hs
  unfold Relaxed.named
  rw [go_get_bind]
  dsimp only
  rw [go_tryCatch_error (go_bind_error hgo), go_bind_ok (go_modify _), go_miss]
  exact ⟨_, rfl⟩

/-! ## Repetition -/

/-- A finished run of a repeated parser from `i` to `k`: steps that each move on, then a refusal
that puts the position back; `ns` is what the steps yield, in order. -/
inductive Runs (p : Nodes) (input : Array Char) : Nat → Nat → List Node → Prop where
  | stop {i : Nat} (h : Misses p input i) : Runs p input i i []
  | step {i j k : Nat} {xs ns : List Node} (h : Takes p input i j xs) (hij : i < j)
      (rest : Runs p input j k ns) : Runs p input i k (xs ++ ns)

theorem Runs.le {p : Nodes} {ns : List Node} (h : Runs p input i k ns) : i ≤ k := by
  induction h with
  | stop => exact le_rfl
  | step _ hij _ ih => omega

/-- A finished run of `k - i` characters at most needs no more fuel than that and one step. -/
theorem Runs.takes_repeatFrom {p : Nodes} {ns : List Node} (h : Runs p input i k ns) :
    ∀ (fuel : Nat) (acc : List Node), k - i < fuel → Takes (repeatFrom p fuel acc) input i k (acc ++ ns) := by
  induction h with
  | @stop i hp =>
    intro fuel acc hfuel
    obtain ⟨f, rfl⟩ : ∃ f, fuel = f + 1 := ⟨fuel - 1, by omega⟩
    intro s hs
    obtain ⟨s', hgo, hpos⟩ := hp.succeeds s hs
    refine ⟨s', ?_, hpos⟩
    rw [repeatFrom, go_get_bind]
    dsimp only
    rw [go_bind_ok hgo, List.append_nil]
    rfl
  | @step i j k xs ns hp hij hrest ih =>
    intro fuel acc hfuel
    obtain ⟨f, rfl⟩ : ∃ f, fuel = f + 1 := ⟨fuel - 1, by omega⟩
    have hjk := hrest.le
    intro s hs
    obtain ⟨s₁, hgo₁, hpos₁⟩ := hp.succeeds s hs
    -- the step moved on, so the loop goes round again from where it stopped
    obtain ⟨s₂, hgo₂, hpos₂⟩ := ih f (acc ++ xs) (by omega) s₁ hpos₁
    refine ⟨s₂, ?_, hpos₂⟩
    rw [repeatFrom, go_get_bind]
    dsimp only
    rw [go_bind_ok hgo₁, go_get_bind, if_neg (by omega), hgo₂, List.append_assoc]

theorem Runs.takes_many {p : Nodes} {ns : List Node} (h : Runs p input i k ns)
    (hk : k - i ≤ input.size - i) : Takes (many p) input i k ns := by
  intro s hs
  obtain ⟨s', hgo, hpos⟩ := h.takes_repeatFrom (input.size - i + 1) [] (by omega) s hs
  refine ⟨s', ?_, hpos⟩
  unfold many
  rw [go_read_bind, go_get_bind, hs, hgo]
  rfl

theorem Runs.takes_manyChars {p : Parse Unit} {ns : List Node} (h : Runs (p *> pure []) input i k ns)
    (hk : k - i ≤ input.size - i) : Takes (manyChars p) input i k () :=
  show Takes (many (p *> pure []) >>= fun _ => pure ()) input i k () from
    (h.takes_many hk).bind (takes_pure ())

/-- A run of characters of a class, ended by one outside it or by the end of the input. -/
theorem runs_charWith {ok : Char → Bool} {r : List Char} (hr : ∀ c t, r = c :: t → ok c = false) :
    ∀ {i : Nat} {w : List Char}, after input i = w ++ r → (∀ c ∈ w, ok c = true) →
      Runs (charWith ok *> pure []) input i (i + w.length) [] := by
  intro i w
  induction w generalizing i with
  | nil =>
    intro h _
    refine Runs.stop (Misses.seqRight (misses_charWith fun c t hct => hr c t ?_))
    rw [← hct, h, List.nil_append]
  | cons c w ih =>
    intro h hw
    have hstep : Takes (charWith ok *> pure ([] : List Node)) input i (i + 1) [] :=
      (takes_charWith h (hw c List.mem_cons_self)).seqRight (takes_pure _)
    have hrest : after input (i + 1) = w ++ r := after_append (w := [c]) h
    have hlen : i + (c :: w).length = i + 1 + w.length := by simp only [List.length_cons]; omega
    rw [hlen]
    exact Runs.step hstep (by omega) (ih hrest fun d hd => hw d (List.mem_cons_of_mem _ hd))

theorem takes_manyChars_charWith {ok : Char → Bool} {w r : List Char} (h : after input i = w ++ r)
    (hw : ∀ c ∈ w, ok c = true) (hr : ∀ c t, r = c :: t → ok c = false) :
    Takes (manyChars (charWith ok)) input i (i + w.length) () :=
  (runs_charWith hr h hw).takes_manyChars (by have := length_le_of_after h; omega)

theorem Misses.takes_manyChars {p : Parse Unit} (hp : Misses p input i) :
    Takes (manyChars p) input i i () :=
  (Runs.stop hp.seqRight).takes_manyChars (by omega)

end Outcomes

end Warden.Relaxed
