import Mathlib.Control.Monad.Basic
import Warden.Store.Sessions

/-!
# Session stores are maps

Both session stores behave as one map from a session id to a session and the instant it
expires, read through the store's clock. A save sets its id, when the clock can hold the
expiry, and otherwise fails with a backend error and changes nothing; a delete removes its id;
a read at `now` answers the session while `now` comes before its expiry, and is not found
otherwise. That is `SessionMap` with a `Clock`: the virtual monotonic clock of the in-memory
store (`monotonic`), and the wall clock of the durable one (`wall`).

## Lazy removal

Neither store removes a session when it expires. The in-memory store drops one when a read finds
it expired and when a purge runs; the durable store when a read finds it expired. A dropped
session was expired, and stays expired since the clock only moves forward, so dropping it
changes no later read. The invariant says exactly that: the store holds the map up to expired
sessions it has dropped (`MemorySessions.Holds`, `DurableSessions.Holds`), and each call keeps
it (`MemorySessions.call_lawful`, `DurableSessions.call_holds`), answering as the map says
(`DurableSessions.call_answer`).

## The durable record

The durable store keeps each session as JSON text under the key `prefix ++ id`, and two ids
never share a key. Its reads decode the text; the law holds along a run whose records read back
as they were written, which is what the store relies on of its encoding.
-/

namespace Warden

/-! ## Lookups in lists of entries -/

theorem lookup_cons_ite {β : Type} (a : String) (b : β) (l : List (String × β)) (k : String) :
    ((a, b) :: l).lookup k = if k = a then some b else l.lookup k := by
  rw [List.lookup_cons]
  by_cases h : k = a
  · simp [h]
  · rw [if_neg h, show (k == a) = false from beq_false_of_ne h]

theorem lookup_filter_ne {β : Type} (l : List (String × β)) (a k : String) :
    (l.filter (·.1 != a)).lookup k = if k = a then none else l.lookup k := by
  induction l with
  | nil => simp
  | cons e l ih =>
    obtain ⟨c, b⟩ := e
    by_cases hca : c = a
    · subst hca
      have hdrop : ((c, b) :: l).filter (·.1 != c) = l.filter (·.1 != c) := by simp
      rw [hdrop, ih, lookup_cons_ite]
      by_cases hk : k = c <;> simp [hk]
    · have hkeep : ((c, b) :: l).filter (·.1 != a) = (c, b) :: l.filter (·.1 != a) := by simp [hca]
      rw [hkeep, lookup_cons_ite, lookup_cons_ite, ih]
      by_cases hk : k = c
      · subst hk
        simp [hca]
      · simp [hk]

/-- In a list where each key occurs once, a filter keeps a key's value exactly when the value
passes. -/
theorem lookup_filter {β : Type} {l : List (String × β)} (hnd : (l.map (·.1)).Nodup)
    (p : String × β → Bool) (k : String) :
    (l.filter p).lookup k = (l.lookup k).filter fun b => p (k, b) := by
  induction l with
  | nil => simp
  | cons e l ih =>
    obtain ⟨c, b⟩ := e
    rw [List.map_cons, List.nodup_cons] at hnd
    have hrest := ih hnd.2
    by_cases hp : p (c, b) = true
    · rw [List.filter_cons_of_pos hp, lookup_cons_ite, lookup_cons_ite, hrest]
      by_cases hk : k = c
      · subst hk
        simp [Option.filter, hp]
      · simp [hk]
    · rw [List.filter_cons_of_neg hp, hrest, lookup_cons_ite]
      by_cases hk : k = c
      · -- the key occurs nowhere else
        subst hk
        have hnone : l.lookup k = none := by
          rw [List.lookup_eq_none_iff]
          intro q hq
          have hne : q.1 ≠ k := fun h => hnd.1 (List.mem_map.2 ⟨q, hq, h⟩)
          simpa [bne, beq_iff_eq] using Ne.symm hne
        simp [Option.filter, hnone, hp]
      · simp [hk]

theorem keys_filter_nodup {β : Type} {l : List (String × β)} (hnd : (l.map (·.1)).Nodup)
    (p : String × β → Bool) : ((l.filter p).map (·.1)).Nodup :=
  hnd.sublist ((List.filter_sublist).map _)

/-! ## Trees -/

namespace Tree

theorem lookup_put (k v : String) (es : List (String × String)) (k' : String) :
    (put k v es).lookup k' = if k' = k then some v else es.lookup k' := by
  induction es with
  | nil => rw [put, lookup_cons_ite]
  | cons e es ih =>
    obtain ⟨k₀, v₀⟩ := e
    unfold put
    split
    · exact lookup_cons_ite k v _ k'
    · split
      · rename_i hk
        subst hk
        rw [lookup_cons_ite, lookup_cons_ite]
        by_cases h : k' = k <;> simp [h]
      · rename_i _ hk
        rw [lookup_cons_ite, ih, lookup_cons_ite]
        by_cases h : k' = k₀
        · subst h
          simp [Ne.symm hk]
        · simp [h]

theorem find?_insert (t : Tree) (k v k' : String) :
    (t.insert k v).find? k' = if k' = k then some v else t.find? k' :=
  lookup_put k v t.entries k'

theorem find?_erase (t : Tree) (k k' : String) :
    (t.erase k).find? k' = if k' = k then none else t.find? k' :=
  lookup_filter_ne t.entries k k'

end Tree

/-! ## Maps and clocks -/

/-- What a store's clock decides: whether a session that expires at `e` is live at `now`, the
expiry of a lifetime started at `now` when the clock can hold it, and the instant after a wait
of some nanoseconds. -/
structure Clock (τ : Type) where
  live : τ → τ → Bool
  expiry : τ → Duration → Option τ
  wait : τ → Nat → τ

/-- A session store as its law sees it: each id's session and the instant it expires. -/
def SessionMap (τ : Type) := String → Option (Session × τ)

/-- A call that both session stores have, or a wait of the store's clock. -/
inductive SessionOp where
  | save (id : String) (session : Session) (ttl : Duration)
  | get (id : String)
  | delete (id : String)
  | wait (nanos : Nat)

/-- A call on the in-memory store: one that both stores have, a purge of the expired sessions, or
a count of the sessions held. -/
inductive MemoryOp where
  | common (op : SessionOp)
  | purge
  | count

/-- What a session store answers to a call. -/
inductive SessionAnswer where
  | saved (r : Except StoreError Unit)
  | read (r : Except StoreError Session)
  | deleted
  | waited
  | purged (n : Nat)
  | counted (n : Nat)
  deriving DecidableEq

namespace SessionOp

variable {τ : Type}

/-- The clock after a call: only a wait moves it. -/
def clockAfter (c : Clock τ) (now : τ) : SessionOp → τ
  | wait d => c.wait now d
  | _ => now

end SessionOp

namespace SessionMap

variable {τ : Type}

/-- The map with no session. -/
def empty : SessionMap τ := fun _ => none

/-- The map with a session and its expiry under an id. -/
def set (M : SessionMap τ) (id : String) (v : Session × τ) : SessionMap τ :=
  fun k => if k = id then some v else M k

/-- The map without an id. -/
def erase (M : SessionMap τ) (id : String) : SessionMap τ :=
  fun k => if k = id then none else M k

/-- What a read of an id answers at `now`: its session while it is live. -/
def read (c : Clock τ) (M : SessionMap τ) (id : String) (now : τ) : Except StoreError Session :=
  match M id with
  | some (s, e) => if c.live now e then .ok s else .error .notFound
  | none => .error .notFound

/-- The map after a call at `now`: a save whose expiry the clock holds sets its id, a delete
removes its id, and nothing else changes the map. -/
def after (c : Clock τ) (M : SessionMap τ) (now : τ) : SessionOp → SessionMap τ
  | .save id s ttl =>
    match c.expiry now ttl with
    | some e => M.set id (s, e)
    | none => M
  | .delete id => M.erase id
  | _ => M

/-- The map and the clock after a run of calls. -/
def replay (c : Clock τ) : SessionMap τ × τ → List SessionOp → SessionMap τ × τ
  | st, [] => st
  | (M, now), op :: ops => replay c (M.after c now op, op.clockAfter c now) ops

/-- The records the saves of a run write from `now` on: each save whose expiry the clock holds,
with that expiry. -/
def writes (c : Clock τ) : τ → List SessionOp → List (Session × τ)
  | _, [] => []
  | now, .save _ s ttl :: ops => ((c.expiry now ttl).map (s, ·)).toList ++ writes c now ops
  | now, op :: ops => writes c (op.clockAfter c now) ops

/-- What the law asks of a store's answer to a call at `now`, from the map `M`. A save succeeds
exactly when the clock holds its expiry and otherwise fails with a backend error naming the
lifetime; a read answers as the map does; a delete always succeeds. -/
def Lawful (c : Clock τ) (M : SessionMap τ) (now : τ) : SessionOp → SessionAnswer → Prop
  | .save _ _ ttl, a => a = .saved (if (c.expiry now ttl).isSome then .ok () else .error (ttlOutOfRange ttl))
  | .get id, a => a = .read (M.read c id now)
  | .delete _, a => a = .deleted
  | .wait _, a => a = .waited

end SessionMap

namespace MemoryOp

/-- The call both stores have, when it is one. -/
def common? : MemoryOp → Option SessionOp
  | common op => some op
  | _ => none

/-- The clock after a call: only a wait moves it. -/
def clockAfter (c : Clock Nat) (now : Nat) : MemoryOp → Nat
  | common op => op.clockAfter c now
  | _ => now

/-- What the law asks of the in-memory store's answer, from the map `M` at `now`: a call both
stores have answers as the map says; a purge answers how many of the sessions the store still
holds, `held` (each an id and its expiry), have expired, and a count how many it holds. -/
def Lawful (c : Clock Nat) (M : SessionMap Nat) (now : Nat) (held : List (String × Nat)) :
    MemoryOp → SessionAnswer → Prop
  | common op, a => SessionMap.Lawful c M now op a
  | purge, a => a = .purged (held.countP fun e => !c.live now e.2)
  | count, a => a = .counted held.length

end MemoryOp

/-! ## In memory -/

/-- The virtual monotonic clock of the in-memory store, in nanoseconds: a session is live
strictly before its expiry, and an expiry must fit signed 64-bit seconds past the clock's
origin. -/
def monotonic : Clock Nat where
  live now e := decide (now < e)
  expiry now ttl :=
    if monotonicOrigin + (now + ttl.toNanos) / 1000000000 ≤ i64Max then some (now + ttl.toNanos) else none
  wait now d := now + d

namespace MemorySessions

/-- One call on the store at the virtual instant `now`, and the store after it. -/
def call (s : MemorySessions) (now : Nat) : MemoryOp → SessionAnswer × MemorySessions
  | .common (.save id session ttl) =>
    match s.save id session ttl now with
    | .ok s' => (.saved (.ok ()), s')
    | .error e => (.saved (.error e), s)
  | .common (.get id) => (.read (s.get id now).1, (s.get id now).2)
  | .common (.delete id) => (.deleted, s.erase id)
  | .common (.wait _) => (.waited, s)
  | .purge => (.purged (s.purgeExpired now).1, (s.purgeExpired now).2)
  | .count => (.counted s.size, s)

/-- The store and the clock after a run of calls. -/
def replay : MemorySessions × Nat → List MemoryOp → MemorySessions × Nat
  | st, [] => st
  | (s, now), op :: ops => replay ((s.call now op).2, op.clockAfter monotonic now) ops

/-- The entries the store holds, each an id and its expiry. -/
def held (s : MemorySessions) : List (String × Nat) := s.entries.map fun e => (e.1, e.2.expiresAt)

/-- The store holds the map `M` at `now`, up to expired sessions it has dropped: each id once,
each session it holds as the map has it, and each session of the map it no longer holds
expired. -/
structure Holds (s : MemorySessions) (M : SessionMap Nat) (now : Nat) : Prop where
  nodup : (s.entries.map (·.1)).Nodup
  held : ∀ id h, s.entries.lookup id = some h → M id = some (h.session, h.expiresAt)
  dropped : ∀ id v, M id = some v → s.entries.lookup id = none → v.2 ≤ now

theorem lookup_erase (s : MemorySessions) (id k : String) :
    (s.erase id).entries.lookup k = if k = id then none else s.entries.lookup k :=
  lookup_filter_ne s.entries id k

theorem expiry?_eq (now : Nat) (ttl : Duration) : expiry? now ttl = monotonic.expiry now ttl := by
  unfold expiry? monotonic
  dsimp only
  by_cases h : monotonicOrigin + (now + ttl.toNanos) / 1000000000 ≤ i64Max
  · rw [if_pos h, if_neg (by omega)]
  · rw [if_neg h, if_pos (by omega)]

/-- A purge answers how many held sessions had expired. -/
theorem purgeExpired_fst (s : MemorySessions) (now : Nat) :
    (s.purgeExpired now).1 = s.held.countP fun e => !monotonic.live now e.2 := by
  have hsplit : s.entries.length = _ :=
    List.length_eq_countP_add_countP (fun e : String × HeldSession => decide (e.2.expiresAt > now))
  rw [purgeExpired, held, List.countP_map, ← List.countP_eq_length_filter]
  dsimp only
  have hsame : s.entries.countP (fun e => ¬decide (e.2.expiresAt > now)) =
      s.entries.countP ((fun e => !monotonic.live now e.2) ∘ fun e => (e.1, e.2.expiresAt)) := by
    congr 1
    funext e
    simp only [monotonic, Function.comp_apply, gt_iff_lt, decide_not, Bool.decide_eq_true]
  omega

variable {s : MemorySessions} {M : SessionMap Nat} {now : Nat}

namespace Holds

theorem empty (now : Nat) : Holds MemorySessions.empty SessionMap.empty now where
  nodup := List.nodup_nil
  held _ _ h := nomatch h
  dropped _ _ h := nomatch h

/-- Later, the store still holds the map: what it dropped stays expired. -/
theorem wait (h : Holds s M now) (d : Nat) : Holds s M (now + d) where
  nodup := h.nodup
  held := h.held
  dropped id v hv hnone := Nat.le_add_right_of_le (h.dropped id v hv hnone)

theorem read (h : Holds s M now) (id : String) : (s.get id now).1 = M.read monotonic id now := by
  unfold get SessionMap.read
  cases hl : s.entries.lookup id with
  | none =>
    cases hM : M id with
    | none => rfl
    | some v =>
      have hexp := h.dropped id v hM hl
      obtain ⟨sess, e⟩ := v
      simp [monotonic, show ¬now < e by simpa using hexp]
  | some held =>
    rw [h.held id held hl]
    simp only [monotonic, gt_iff_lt]
    split <;> simp_all

theorem get (h : Holds s M now) (id : String) : Holds (s.get id now).2 M now := by
  unfold MemorySessions.get
  cases hl : s.entries.lookup id with
  | none => exact h
  | some held =>
    dsimp only
    split
    · exact h
    · rename_i hexp
      refine ⟨keys_filter_nodup h.nodup _, fun k hk hget => ?_, fun k v hv hnone => ?_⟩
      · rw [lookup_erase] at hget
        split at hget
        · cases hget
        · exact h.held k hk hget
      · rw [lookup_erase] at hnone
        by_cases hkid : k = id
        · -- the session just dropped, which had expired
          subst hkid
          rw [h.held k held hl] at hv
          cases hv
          exact Nat.le_of_not_lt hexp
        · rw [if_neg hkid] at hnone
          exact h.dropped k v hv hnone

theorem erase (h : Holds s M now) (id : String) : Holds (s.erase id) (M.erase id) now where
  nodup := keys_filter_nodup h.nodup _
  held k held hget := by
    rw [lookup_erase] at hget
    unfold SessionMap.erase
    split at hget
    · cases hget
    · rename_i hk
      rw [if_neg hk]
      exact h.held k held hget
  dropped k v hv hnone := by
    unfold SessionMap.erase at hv
    rw [lookup_erase] at hnone
    split at hv
    · cases hv
    · rename_i hk
      rw [if_neg hk] at hnone
      exact h.dropped k v hv hnone

theorem save (h : Holds s M now) (id : String) (sess : Session) (at_ : Nat) :
    Holds ⟨(id, ⟨sess, at_⟩) :: (s.erase id).entries⟩ (M.set id (sess, at_)) now where
  nodup := by
    rw [List.map_cons, List.nodup_cons]
    refine ⟨fun hmem => ?_, keys_filter_nodup h.nodup _⟩
    obtain ⟨e, he, hid⟩ := List.mem_map.1 hmem
    have hne := (List.mem_filter.1 he).2
    simp [hid] at hne
  held k held hget := by
    unfold SessionMap.set
    rw [lookup_cons_ite, lookup_erase] at hget
    by_cases hk : k = id
    · rw [if_pos hk] at hget ⊢
      cases hget
      rfl
    · rw [if_neg hk, if_neg hk] at hget
      rw [if_neg hk]
      exact h.held k held hget
  dropped k v hv hnone := by
    unfold SessionMap.set at hv
    rw [lookup_cons_ite, lookup_erase] at hnone
    by_cases hk : k = id
    · rw [if_pos hk] at hnone
      cases hnone
    · rw [if_neg hk, if_neg hk] at hnone
      rw [if_neg hk] at hv
      exact h.dropped k v hv hnone

theorem purge (h : Holds s M now) : Holds (s.purgeExpired now).2 M now where
  nodup := keys_filter_nodup h.nodup _
  held k held hget := by
    rw [purgeExpired, lookup_filter h.nodup] at hget
    obtain ⟨hl, -⟩ := Option.filter_eq_some_iff.1 hget
    exact h.held k held hl
  dropped k v hv hnone := by
    rw [purgeExpired, lookup_filter h.nodup] at hnone
    cases hl : s.entries.lookup k with
    | none => exact h.dropped k v hv hl
    | some held =>
      -- the session was purged, so it had expired
      rw [hl, Option.filter_eq_none_iff] at hnone
      have hexp := hnone held rfl
      rw [h.held k held hl] at hv
      cases hv
      simpa using hexp

end Holds

/-- One call keeps the map up to dropped sessions, and answers as the law asks. A purge and a
count leave the map as it was. -/
theorem call_lawful (h : Holds s M now) (op : MemoryOp) :
    Holds (s.call now op).2 ((op.common?.map (M.after monotonic now ·)).getD M) (op.clockAfter monotonic now) ∧
      MemoryOp.Lawful monotonic M now s.held op (s.call now op).1 := by
  cases op with
  | common op =>
    cases op with
    | save id sess ttl =>
      simp only [call, MemoryOp.common?, MemoryOp.clockAfter, SessionOp.clockAfter, Option.map_some,
        Option.getD_some, SessionMap.after, MemoryOp.Lawful, SessionMap.Lawful, MemorySessions.save, expiry?_eq]
      cases monotonic.expiry now ttl with
      | none => exact ⟨h, rfl⟩
      | some at_ => exact ⟨h.save id sess at_, rfl⟩
    | get id => exact ⟨h.get id, by rw [call, h.read id]; rfl⟩
    | delete id => exact ⟨h.erase id, rfl⟩
    | wait d => exact ⟨h.wait d, rfl⟩
  | purge => exact ⟨h.purge, by rw [call, purgeExpired_fst]; rfl⟩
  | count => exact ⟨h, by simp [call, MemoryOp.Lawful, size, held]⟩

/-- Along a run, the store holds the map that its calls both stores have build, on the same
clock. -/
theorem replay_holds {ops : List MemoryOp} (h : Holds s M now) :
    (replay (s, now) ops).2 = (SessionMap.replay monotonic (M, now) (ops.filterMap MemoryOp.common?)).2 ∧
      Holds (replay (s, now) ops).1 (SessionMap.replay monotonic (M, now) (ops.filterMap MemoryOp.common?)).1
        (replay (s, now) ops).2 := by
  induction ops generalizing s M now with
  | nil => exact ⟨rfl, h⟩
  | cons op ops ih =>
    have hstep := (call_lawful h op).1
    cases op with
    | common op => exact ih hstep
    | purge => exact ih hstep
    | count => exact ih hstep

end MemorySessions

/-! ## Durable -/

/-- The instant `d` nanoseconds after `t`. -/
def Timestamp.later (t : Timestamp) (d : Nat) : Timestamp :=
  ⟨t.secs + ((t.nanos + d) / 1000000000 : Nat), (t.nanos + d) % 1000000000⟩

/-- The wall clock of the durable store: a session is live strictly before its expiry; a
lifetime must fit signed 64-bit milliseconds, and its expiry a date the calendar holds. -/
def wall : Clock Timestamp where
  live now e := now.lt e
  expiry now ttl :=
    if ttl.toNanos ≤ i64Max * 1000000 ∧ (now.later ttl.toNanos).secs ≤ Timestamp.maxSecs then
      some (now.later ttl.toNanos)
    else none
  wait now d := now.later d

namespace Timestamp

theorem lt_iff {a b : Timestamp} : a.lt b = true ↔ a.secs < b.secs ∨ (a.secs = b.secs ∧ a.nanos < b.nanos) := by
  simp [lt]

/-- An instant before `e` is before it at any earlier time too. -/
theorem lt_of_later_lt {t e : Timestamp} {d : Nat} (h : (t.later d).lt e = true) : t.lt e = true := by
  rw [lt_iff] at h ⊢
  unfold later at h
  dsimp only at h
  -- the carry into the seconds is zero, and then the nanoseconds only grew, or it is positive
  have hsplit := Nat.div_add_mod (t.nanos + d) 1000000000
  generalize (t.nanos + d) / 1000000000 = q at h hsplit
  generalize (t.nanos + d) % 1000000000 = r at h hsplit
  omega

/-- The store's expiry is the wall clock's: the lifetime within signed 64-bit milliseconds, and the
instant after it within the calendar. -/
theorem after?_eq (now : Timestamp) (ttl : Duration) : now.after? ttl = wall.expiry now ttl := by
  have hnanos := ttl.nanos_lt
  have hsecs : ((now.nanos + ttl.toNanos) / 1000000000 : Nat) =
      ttl.secs + (now.nanos + ttl.nanos) / 1000000000 := by
    unfold Duration.toNanos
    omega
  have hrem : (now.nanos + ttl.toNanos) % 1000000000 = (now.nanos + ttl.nanos) % 1000000000 := by
    unfold Duration.toNanos
    omega
  -- the lifetime fits signed 64-bit milliseconds exactly when the store's bound on it passes
  have hbound : ttl.toNanos ≤ i64Max * 1000000 ↔
      ¬(ttl.secs > maxDeltaSecs ∨ ttl.secs = maxDeltaSecs ∧ ttl.nanos > i64Max % 1000 * 1000000) := by
    unfold Duration.toNanos maxDeltaSecs i64Max
    omega
  unfold after? wall later
  dsimp only
  rw [hsecs, hrem, Int.natCast_add, ← Int.add_assoc]
  by_cases hfit : ttl.toNanos ≤ i64Max * 1000000
  · rw [if_neg (hbound.1 hfit)]
    by_cases hcal : now.secs + ↑ttl.secs + ↑((now.nanos + ttl.nanos) / 1000000000) ≤ maxSecs
    · rw [if_neg (Int.not_lt.2 hcal), if_pos (And.intro hfit hcal)]
    · rw [if_pos (Int.lt_of_not_ge hcal), if_neg (fun h => hcal h.2)]
  · rw [if_pos (Classical.not_not.1 (mt hbound.2 hfit)), if_neg (fun h => hfit h.1)]

end Timestamp

namespace DurableSessions

/-- Two ids never share a key. -/
theorem key_inj (s : DurableSessions) {id id' : String} (h : s.key id = s.key id') : id = id' := by
  unfold key at h
  rw [String.ext_iff, String.toList_append, String.toList_append] at h
  exact String.ext_iff.2 (List.append_cancel_left h)

/-- One call on the store at the wall-clock instant `now`, and the store after it. -/
def call (s : DurableSessions) (now : Timestamp) : SessionOp → SessionAnswer × DurableSessions
  | .save id session ttl =>
    match s.save id session ttl now with
    | .ok s' => (.saved (.ok ()), s')
    | .error e => (.saved (.error e), s)
  | .get id => (.read (s.get id now).1, (s.get id now).2)
  | .delete id => (.deleted, s.delete id)
  | .wait _ => (.waited, s)

/-- The store and the clock after a run of calls. -/
def replay : DurableSessions × Timestamp → List SessionOp → DurableSessions × Timestamp
  | st, [] => st
  | (s, now), op :: ops => replay ((s.call now op).2, op.clockAfter wall now) ops

/-- The store holds the map `M` at `now`, up to expired sessions it has dropped: the text under
an id's key reads back as the map's session and expiry, and each session of the map it no longer
holds is expired. -/
structure Holds (s : DurableSessions) (M : SessionMap Timestamp) (now : Timestamp) : Prop where
  stored : ∀ id text, s.tree.find? (s.key id) = some text →
    ∃ v, M id = some v ∧ decodeRecord StoredSession.shape.read text = .ok ⟨v.1, v.2⟩
  dropped : ∀ id v, M id = some v → s.tree.find? (s.key id) = none → wall.live now v.2 = false

theorem find?_erase_key (s : DurableSessions) (id k : String) :
    (s.tree.erase (s.key id)).find? (s.key k) = if k = id then none else s.tree.find? (s.key k) := by
  rw [Tree.find?_erase]
  by_cases hk : k = id
  · rw [if_pos (congrArg s.key hk), if_pos hk]
  · rw [if_neg (fun h => hk (s.key_inj h)), if_neg hk]

theorem find?_insert_key (s : DurableSessions) (id k v : String) :
    (s.tree.insert (s.key id) v).find? (s.key k) = if k = id then some v else s.tree.find? (s.key k) := by
  rw [Tree.find?_insert]
  by_cases hk : k = id
  · rw [if_pos (congrArg s.key hk), if_pos hk]
  · rw [if_neg (fun h => hk (s.key_inj h)), if_neg hk]

theorem find?_delete (s : DurableSessions) (id k : String) :
    (s.delete id).tree.find? ((s.delete id).key k) = if k = id then none else s.tree.find? (s.key k) :=
  find?_erase_key s id k

variable {s : DurableSessions} {M : SessionMap Timestamp} {now : Timestamp} {id : String}

theorem get_of_absent (hf : s.tree.find? (s.key id) = none) : s.get id now = (.error .notFound, s) := by
  unfold get
  rw [hf]

/-- A stored record that decodes is answered while live, and dropped once expired. -/
theorem get_of_stored {text : String} {r : StoredSession} (hf : s.tree.find? (s.key id) = some text)
    (hdec : decodeRecord StoredSession.shape.read text = .ok r) :
    s.get id now = if now.lt r.expiresAt then (.ok r.session, s) else (.error .notFound, s.delete id) := by
  unfold get
  simp only [hf, hdec]
  rfl

namespace Holds

theorem empty (keyPrefix : String) (now : Timestamp) :
    Holds ⟨Tree.empty, keyPrefix⟩ SessionMap.empty now where
  stored _ _ h := nomatch h
  dropped _ _ h := nomatch h

/-- Later, the store still holds the map: what it dropped stays expired. -/
theorem wait (h : Holds s M now) (d : Nat) : Holds s M (now.later d) where
  stored := h.stored
  dropped id v hv hnone := by
    have hexp := h.dropped id v hv hnone
    cases hlive : wall.live (now.later d) v.2
    · rfl
    · exact absurd (Timestamp.lt_of_later_lt hlive) (by simpa [wall] using hexp)

theorem read (h : Holds s M now) (id : String) : (s.get id now).1 = M.read wall id now := by
  unfold SessionMap.read
  cases hf : s.tree.find? (s.key id) with
  | none =>
    rw [get_of_absent hf]
    cases hM : M id with
    | none => rfl
    | some v =>
      have hexp := h.dropped id v hM hf
      obtain ⟨sess, e⟩ := v
      simp [hexp]
  | some text =>
    obtain ⟨⟨sess, e⟩, hM, hdec⟩ := h.stored id text hf
    rw [get_of_stored hf hdec, hM]
    by_cases hlive : now.lt e = true <;> simp [wall, hlive]

theorem get (h : Holds s M now) (id : String) : Holds (s.get id now).2 M now := by
  cases hf : s.tree.find? (s.key id) with
  | none =>
    rw [get_of_absent hf]
    exact h
  | some text =>
    obtain ⟨⟨sess, e⟩, hM, hdec⟩ := h.stored id text hf
    rw [get_of_stored hf hdec]
    split
    · exact h
    · rename_i hexp
      refine ⟨fun k t hk => ?_, fun k v' hv hnone => ?_⟩
      · rw [find?_delete] at hk
        split at hk
        · cases hk
        · exact h.stored k t hk
      · rw [find?_delete] at hnone
        by_cases hkid : k = id
        · -- the session just dropped, which had expired
          subst hkid
          rw [hM] at hv
          cases hv
          simpa [wall] using hexp
        · rw [if_neg hkid] at hnone
          exact h.dropped k v' hv hnone

theorem delete (h : Holds s M now) (id : String) : Holds (s.delete id) (M.erase id) now where
  stored k t hk := by
    rw [find?_delete] at hk
    unfold SessionMap.erase
    split at hk
    · cases hk
    · rename_i hkid
      rw [if_neg hkid]
      exact h.stored k t hk
  dropped k v hv hnone := by
    unfold SessionMap.erase at hv
    rw [find?_delete] at hnone
    split at hv
    · cases hv
    · rename_i hkid
      rw [if_neg hkid] at hnone
      exact h.dropped k v hv hnone

theorem save (h : Holds s M now) (id : String) (sess : Session) (at_ : Timestamp)
    (hread : decodeRecord StoredSession.shape.read (StoredSession.toJson ⟨sess, at_⟩).compact = .ok ⟨sess, at_⟩) :
    Holds { s with tree := s.tree.insert (s.key id) (StoredSession.toJson ⟨sess, at_⟩).compact }
      (M.set id (sess, at_)) now where
  stored k t hk := by
    rw [show ({ s with tree := s.tree.insert (s.key id) (StoredSession.toJson ⟨sess, at_⟩).compact } :
      DurableSessions).key k = s.key k from rfl, find?_insert_key] at hk
    unfold SessionMap.set
    by_cases hkid : k = id
    · rw [if_pos hkid] at hk ⊢
      cases hk
      exact ⟨_, rfl, hread⟩
    · rw [if_neg hkid] at hk ⊢
      exact h.stored k t hk
  dropped k v hv hnone := by
    rw [show ({ s with tree := s.tree.insert (s.key id) (StoredSession.toJson ⟨sess, at_⟩).compact } :
      DurableSessions).key k = s.key k from rfl, find?_insert_key] at hnone
    unfold SessionMap.set at hv
    by_cases hkid : k = id
    · rw [if_pos hkid] at hnone
      cases hnone
    · rw [if_neg hkid] at hnone hv
      exact h.dropped k v hv hnone

end Holds

/-- One call answers as the law asks. -/
theorem call_answer (h : Holds s M now) (op : SessionOp) : SessionMap.Lawful wall M now op (s.call now op).1 := by
  cases op with
  | save id sess ttl =>
    simp only [call, SessionMap.Lawful, DurableSessions.save, Timestamp.after?_eq]
    cases wall.expiry now ttl <;> rfl
  | get id => rw [call, h.read id]; rfl
  | delete id => rfl
  | wait d => rfl

/-- One call keeps the map up to dropped sessions, when a record it writes reads back as
written. -/
theorem call_holds (h : Holds s M now) (op : SessionOp)
    (hread : ∀ v ∈ SessionMap.writes wall now [op],
      decodeRecord StoredSession.shape.read (StoredSession.toJson ⟨v.1, v.2⟩).compact = .ok ⟨v.1, v.2⟩) :
    Holds (s.call now op).2 (M.after wall now op) (op.clockAfter wall now) := by
  cases op with
  | save id sess ttl =>
    simp only [SessionMap.writes, List.append_nil] at hread
    simp only [call, SessionOp.clockAfter, SessionMap.after, DurableSessions.save, Timestamp.after?_eq]
    cases hexp : wall.expiry now ttl with
    | none => exact h
    | some at_ =>
      rw [hexp] at hread
      exact h.save id sess at_ (hread (sess, at_) (List.mem_singleton_self _))
  | get id => exact h.get id
  | delete id => exact h.delete id
  | wait d => exact h.wait d

/-- Along a run whose records read back as written, the store holds the map the same calls
build, on the same clock. -/
theorem replay_holds {ops : List SessionOp} (h : Holds s M now)
    (hread : ∀ v ∈ SessionMap.writes wall now ops,
      decodeRecord StoredSession.shape.read (StoredSession.toJson ⟨v.1, v.2⟩).compact = .ok ⟨v.1, v.2⟩) :
    (replay (s, now) ops).2 = (SessionMap.replay wall (M, now) ops).2 ∧
      Holds (replay (s, now) ops).1 (SessionMap.replay wall (M, now) ops).1 (replay (s, now) ops).2 := by
  induction ops generalizing s M now with
  | nil => exact ⟨rfl, h⟩
  | cons op ops ih =>
    have hsplit : SessionMap.writes wall now (op :: ops) =
        SessionMap.writes wall now [op] ++ SessionMap.writes wall (op.clockAfter wall now) ops := by
      cases op <;> simp [SessionMap.writes, SessionOp.clockAfter]
    rw [hsplit] at hread
    exact ih (call_holds h op fun v hv => hread v (List.mem_append_left _ hv))
      fun v hv => hread v (List.mem_append_right _ hv)

end DurableSessions

/-! ## The law -/

/-- **Session stores are maps.** The in-memory store, on the virtual clock, holds after any run of
calls from empty the map those calls build, up to expired sessions it has dropped, and its next
call answers as that map says: a save succeeds exactly when the monotonic clock holds the expiry
and otherwise fails with a backend error, changing nothing; a read answers the session while the
clock is before its expiry and is not found otherwise; a delete succeeds. Reads and purges drop
only expired sessions, so they never change what a later read answers; a purge answers how many
held sessions have expired, and a count how many the store holds. The durable store holds the
same law on the wall clock, with lifetimes bounded by signed 64-bit milliseconds and expiries by
the calendar, along any run whose records read back as written; its key for an id is the prefix
followed by the id, so two ids never share one. -/
theorem session_stores_are_maps :
    (∀ (t₀ : Nat) (ops : List MemoryOp) (op : MemoryOp),
      let run := MemorySessions.replay (MemorySessions.empty, t₀) ops
      let M := (SessionMap.replay monotonic (SessionMap.empty, t₀) (ops.filterMap MemoryOp.common?)).1
      run.1.Holds M run.2 ∧ MemoryOp.Lawful monotonic M run.2 run.1.held op (run.1.call run.2 op).1) ∧
    (∀ (keyPrefix : String) (t₀ : Timestamp) (ops : List SessionOp) (op : SessionOp),
      (∀ v ∈ SessionMap.writes wall t₀ ops,
        decodeRecord StoredSession.shape.read (StoredSession.toJson ⟨v.1, v.2⟩).compact = .ok ⟨v.1, v.2⟩) →
      let run := DurableSessions.replay (⟨Tree.empty, keyPrefix⟩, t₀) ops
      let M := (SessionMap.replay wall (SessionMap.empty, t₀) ops).1
      run.1.Holds M run.2 ∧ SessionMap.Lawful wall M run.2 op (run.1.call run.2 op).1 ∧
        ∀ id id', run.1.key id = run.1.key id' → id = id') := by
  refine ⟨fun t₀ ops op => ?_, fun keyPrefix t₀ ops op hread => ?_⟩
  · have hrun : _ ∧ _ := @MemorySessions.replay_holds _ _ _ ops (MemorySessions.Holds.empty t₀)
    exact ⟨hrun.2, (MemorySessions.call_lawful hrun.2 op).2⟩
  · have hrun := DurableSessions.replay_holds (DurableSessions.Holds.empty keyPrefix t₀) hread
    exact ⟨hrun.2, DurableSessions.call_answer hrun.2 op, fun _ _ h => DurableSessions.key_inj _ h⟩

/-- A durable session saved for a minute at the start of 2026, read at once, and read again a
minute later, when it has just expired. -/
theorem session_stores_are_maps_at_expiry :
    let ops := [SessionOp.save "a" ⟨"u-1", TokenPair.empty⟩ (Duration.ofSecs 60), .get "a", .wait 60000000000]
    (∀ v ∈ SessionMap.writes wall ⟨1767225600, 0⟩ ops,
        decodeRecord StoredSession.shape.read (StoredSession.toJson ⟨v.1, v.2⟩).compact = .ok ⟨v.1, v.2⟩) ∧
      let run := DurableSessions.replay (⟨Tree.empty, "session:"⟩, ⟨1767225600, 0⟩) ops
      let M := (SessionMap.replay wall (SessionMap.empty, ⟨1767225600, 0⟩) ops).1
      run.1.Holds M run.2 ∧ SessionMap.Lawful wall M run.2 (.get "a") (run.1.call run.2 (.get "a")).1 ∧
        ∀ id id', run.1.key id = run.1.key id' → id = id' :=
  have hread : ∀ v ∈ SessionMap.writes wall ⟨1767225600, 0⟩
      [SessionOp.save "a" ⟨"u-1", TokenPair.empty⟩ (Duration.ofSecs 60), .get "a", .wait 60000000000],
      decodeRecord StoredSession.shape.read (StoredSession.toJson ⟨v.1, v.2⟩).compact = .ok ⟨v.1, v.2⟩ := by
    decide +kernel
  ⟨hread, session_stores_are_maps.2 "session:" ⟨1767225600, 0⟩ _ (.get "a") hread⟩

end Warden
