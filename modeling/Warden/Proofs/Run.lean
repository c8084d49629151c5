import Mathlib
import Warden.Simulation.Scenario

/-!
# Running a simulated computation

A computation of a simulated world is a function of the stack of deadlines and of the world.
It answers a value and the world after it, or, when one of the deadlines fell while it slept,
the level of that deadline. This file takes the computations of the simulation apart into that
form once, so that the access services can be followed step by step.

## Instant steps

Every store operation and every reading of a clock or a counter is *instant*: it ignores the
deadlines and answers from the world alone. Each is given here as a function of the world
(`World.getSession`, `World.ensureUser`, …) together with the lemma that its computation runs
as that function says. What the services do to the stores is then stated through them.

## Bounded calls

A bounded call runs under one more deadline than its caller. An instant call finishes in time,
and the bound only converts its failure. A call with a hang fault sleeps for an hour, and
`firstToFall` decides which deadline, if any, falls first: the call's own (the call times out),
an enclosing one (the caller is cut short), or none (the hour ends and the call fails as one
that hung). From the top level, where the call's own deadline is the only one, the answer of a
bounded call is `topAnswer`.
-/

namespace Warden

namespace Sim

variable {α β ε : Type} {ds : List Nat} {w w' : World}

/-! ## Sequencing -/

theorem bind_ok {x : Sim α} {a : α} (h : x ds w = .ok a w') (f : α → Sim β) :
    (x >>= f) ds w = f a ds w' := by
  simp only [bind, ReaderT.bind, EStateM.bind, h]

theorem bind_fallen {x : Sim α} {e : Fallen} (h : x ds w = .error e w') (f : α → Sim β) :
    (x >>= f) ds w = .error e w' := by
  simp only [bind, ReaderT.bind, EStateM.bind, h]

theorem run_bind_ok {y : ExceptT ε Sim α} {a : α} (h : y.run ds w = .ok (.ok a) w')
    (f : α → ExceptT ε Sim β) : (y >>= f).run ds w = (f a).run ds w' := by
  rw [ExceptT.run_bind, bind_ok h]

theorem run_bind_error {y : ExceptT ε Sim α} {e : ε} (h : y.run ds w = .ok (.error e) w')
    (f : α → ExceptT ε Sim β) : (y >>= f).run ds w = .ok (.error e) w' := by
  rw [ExceptT.run_bind, bind_ok h]
  rfl

theorem run_bind_fallen {y : ExceptT ε Sim α} {e : Fallen} (h : y.run ds w = .error e w')
    (f : α → ExceptT ε Sim β) : (y >>= f).run ds w = .error e w' := by
  rw [ExceptT.run_bind, bind_fallen h]

theorem run_lift {x : Sim α} {a : α} (h : x ds w = .ok a w') :
    (liftM x : ExceptT ε Sim α).run ds w = .ok (.ok a) w' := by
  simp only [liftM, monadLift, MonadLift.monadLift, ExceptT.run_lift, Functor.map, EStateM.map, h]

theorem run_lift_fallen {x : Sim α} {e : Fallen} (h : x ds w = .error e w') :
    (liftM x : ExceptT ε Sim α).run ds w = .error e w' := by
  simp only [liftM, monadLift, MonadLift.monadLift, ExceptT.run_lift, Functor.map, EStateM.map, h]

theorem run_exceptLift {x : Sim α} {a : α} (h : x ds w = .ok a w') :
    (ExceptT.lift x : ExceptT ε Sim α).run ds w = .ok (.ok a) w' := by
  simp only [ExceptT.run_lift, Functor.map, EStateM.map, h]

theorem run_exceptLift_fallen {x : Sim α} {e : Fallen} (h : x ds w = .error e w') :
    (ExceptT.lift x : ExceptT ε Sim α).run ds w = .error e w' := by
  simp only [ExceptT.run_lift, Functor.map, EStateM.map, h]

theorem run_tryCatch_ok {y : ExceptT ε Sim α} {a : α} (h : y.run ds w = .ok (.ok a) w')
    (handler : ε → ExceptT ε Sim α) : (tryCatch y handler).run ds w = .ok (.ok a) w' := by
  rw [ExceptT.run_tryCatch, bind_ok h]
  rfl

theorem run_tryCatch_error {y : ExceptT ε Sim α} {e : ε} (h : y.run ds w = .ok (.error e) w')
    (handler : ε → ExceptT ε Sim α) : (tryCatch y handler).run ds w = (handler e).run ds w' := by
  rw [ExceptT.run_tryCatch, bind_ok h]

end Sim

/-! ## Instant steps -/

namespace World

/-- The world after a reading of the wall clock: the next reading is a microsecond later. -/
def tick (w : World) : World :=
  let n := w.wall.nanos + 1000
  { w with wall := ⟨w.wall.secs + (n / 1000000000 : Nat), n % 1000000000⟩ }

@[simp] theorem tick_stores (w : World) : w.tick.stores = w.stores := rfl

@[simp] theorem tick_clock (w : World) : w.tick.clock = w.clock := rfl

@[simp] theorem tick_faults (w : World) : w.tick.faults = w.faults := rfl

/-- The `n`-th session id handed out: the decimal digits of `n`, padded with `A` to 43
characters. -/
def sessionIdOf (n : Nat) : SessionId :=
  ⟨String.ofList (List.replicate (43 - (Nat.toDigits 10 n).length) 'A' ++ Nat.toDigits 10 n)⟩

/-- The session store's answer for an id; an expired session is dropped on the way. The
durable store reads the wall clock, the memory store the virtual one. -/
def getSession (w : World) (id : SessionId) : Except StoreError Session × World :=
  match w.stores with
  | .memory ss us => match ss.get id.text w.clock with
    | (r, ss') => (r, { w with stores := .memory ss' us })
  | .durable ss us sep => match ss.get id.text w.wall with
    | (r, ss') => (r, { w.tick with stores := .durable ss' us sep })

/-- Saves a session for a lifetime; a lifetime whose expiry cannot be held changes nothing. -/
def saveSession (w : World) (id : SessionId) (s : Session) (ttl : Duration) :
    Except StoreError Unit × World :=
  match w.stores with
  | .memory ss us => match ss.save id.text s ttl w.clock with
    | .ok ss' => (.ok (), { w with stores := .memory ss' us })
    | .error e => (.error e, w)
  | .durable ss us sep => match ss.save id.text s ttl w.wall with
    | .ok ss' => (.ok (), { w.tick with stores := .durable ss' us sep })
    | .error e => (.error e, w.tick)

/-- Creates a user unless it exists, stamped with the wall clock. -/
def ensureUser (w : World) (id : String) : Except StoreError Unit × World :=
  (.ok (), match w.stores with
    | .memory ss us => { w.tick with stores := .memory ss (us.ensureExists id w.wall) }
    | .durable ss us sep => { w.tick with stores := .durable ss (us.ensureExists id w.wall) sep })

/-- Keeps the login information of its user. -/
def saveLoginInfo (w : World) (info : LoginInfo) : Except StoreError Unit × World :=
  (.ok (), match w.stores with
    | .memory ss us => { w with stores := .memory ss (us.saveLoginInfo info) }
    | .durable ss us sep => { w with stores := .durable ss (us.saveLoginInfo info) sep })

/-- The role of a user. -/
def getRole (w : World) (id : String) : Except StoreError Role × World :=
  (match w.stores with
    | .memory _ us => us.getRole id
    | .durable _ us _ => us.getRole id, w)

/-- Changes a user, created if missing, stamped with the wall clock. -/
def modifyUser (w : World) (id : String) (f : User → User) : Except StoreError Unit × World :=
  match w.stores with
  | .memory ss us => (.ok (), { w.tick with stores := .memory ss (us.modify id f w.wall) })
  | .durable ss us sep => match us.modify id f w.wall with
    | .ok us' => (.ok (), { w.tick with stores := .durable ss us' sep })
    | .error e => (.error e, w.tick)

/-! ### What a write can change -/

/-- `w'` differs from `w` at most in its stores and its wall clock: all that a store operation
changes. -/
def WritesOnly (w w' : World) : Prop := ∃ stores wall, w' = { w with stores := stores, wall := wall }

namespace WritesOnly

variable {w w₁ w₂ : World}

theorem refl (w : World) : WritesOnly w w := ⟨w.stores, w.wall, rfl⟩

theorem trans (h₁ : WritesOnly w w₁) (h₂ : WritesOnly w₁ w₂) : WritesOnly w w₂ := by
  obtain ⟨st₁, t₁, rfl⟩ := h₁
  obtain ⟨st₂, t₂, rfl⟩ := h₂
  exact ⟨st₂, t₂, rfl⟩

theorem faults (h : WritesOnly w w₁) : w₁.faults = w.faults := by
  obtain ⟨st, t, rfl⟩ := h
  rfl

theorem settings (h : WritesOnly w w₁) : w₁.settings = w.settings := by
  obtain ⟨st, t, rfl⟩ := h
  rfl

theorem clock (h : WritesOnly w w₁) : w₁.clock = w.clock := by
  obtain ⟨st, t, rfl⟩ := h
  rfl

theorem idsIssued (h : WritesOnly w w₁) : w₁.idsIssued = w.idsIssued := by
  obtain ⟨st, t, rfl⟩ := h
  rfl

theorem uidReads (h : WritesOnly w w₁) : w₁.uidReads = w.uidReads := by
  obtain ⟨st, t, rfl⟩ := h
  rfl

end WritesOnly

theorem ensureUser_writesOnly (w : World) (id : String) : WritesOnly w (w.ensureUser id).2 := by
  unfold ensureUser
  split <;> exact ⟨_, _, rfl⟩

theorem saveLoginInfo_writesOnly (w : World) (info : LoginInfo) :
    WritesOnly w (w.saveLoginInfo info).2 := by
  unfold saveLoginInfo
  split <;> exact ⟨_, _, rfl⟩

theorem modifyUser_writesOnly (w : World) (id : String) (f : User → User) :
    WritesOnly w (w.modifyUser id f).2 := by
  unfold modifyUser
  split
  · exact ⟨_, _, rfl⟩
  · split <;> exact ⟨_, _, rfl⟩

theorem getSession_writesOnly (w : World) (id : SessionId) : WritesOnly w (w.getSession id).2 := by
  unfold getSession
  split <;> exact ⟨_, _, rfl⟩

theorem saveSession_writesOnly (w : World) (id : SessionId) (s : Session) (ttl : Duration) :
    WritesOnly w (w.saveSession id s ttl).2 := by
  unfold saveSession
  split <;> split <;> exact ⟨_, _, rfl⟩

/-! ### In memory -/

variable {w : World} {ss : MemorySessions} {us : MemoryUsers}

theorem ensureUser_of_memory (h : w.stores = .memory ss us) (id : String) :
    (w.ensureUser id).2 = { w.tick with stores := .memory ss (us.ensureExists id w.wall) } := by
  rw [ensureUser, h]

theorem saveLoginInfo_of_memory (h : w.stores = .memory ss us) (info : LoginInfo) :
    (w.saveLoginInfo info).2 = { w with stores := .memory ss (us.saveLoginInfo info) } := by
  rw [saveLoginInfo, h]

theorem modifyUser_of_memory (h : w.stores = .memory ss us) (id : String) (f : User → User) :
    w.modifyUser id f = (.ok (), { w.tick with stores := .memory ss (us.modify id f w.wall) }) := by
  rw [modifyUser, h]

/-- In memory, a lookup reads the sessions on the virtual clock and keeps what the read leaves of
them. -/
theorem getSession_of_memory (h : w.stores = .memory ss us) (id : SessionId) :
    w.getSession id = ((ss.get id.text w.clock).1, { w with stores := .memory (ss.get id.text w.clock).2 us }) := by
  cases hget : ss.get id.text w.clock
  simp only [getSession, h, hget]

/-- A durable lookup reads the sessions on the wall clock, which it moves on. -/
theorem getSession_of_durable {ds : DurableSessions} {du : DurableUsers} {sep : Bool}
    (h : w.stores = .durable ds du sep) (id : SessionId) :
    w.getSession id =
      ((ds.get id.text w.wall).1, { w.tick with stores := .durable (ds.get id.text w.wall).2 du sep }) := by
  cases hget : ds.get id.text w.wall
  simp only [getSession, h, hget]

end World

namespace Sim

variable {α : Type} {ds : List Nat} {w : World}

theorem world_run : world ds w = .ok w w := rfl

theorem change_run (f : World → World) : change f ds w = .ok () (f w) := rfl

theorem wallNow_run : wallNow ds w = .ok w.wall w.tick := rfl

theorem freshSessionId_run :
    freshSessionId ds w = .ok (World.sessionIdOf (w.idsIssued + 1)) { w with idsIssued := w.idsIssued + 1 } :=
  rfl

theorem readUid_run (token : String) :
    readUid token ds w = .ok (w.uidSource.read token) { w with uidReads := w.uidReads + 1 } :=
  rfl

theorem getSession_run (id : SessionId) :
    getSession id ds w = .ok (w.getSession id).1 (w.getSession id).2 := by
  rw [getSession, bind_ok world_run, World.getSession]
  cases h : w.stores <;> rfl

theorem saveSession_run (id : SessionId) (s : Session) (ttl : Duration) :
    saveSession id s ttl ds w = .ok (w.saveSession id s ttl).1 (w.saveSession id s ttl).2 := by
  rw [saveSession, bind_ok world_run, World.saveSession]
  cases h : w.stores with
  | memory ss us => dsimp only; cases ss.save id.text s ttl w.clock <;> rfl
  | durable ss us sep =>
    dsimp only
    rw [bind_ok wallNow_run]
    cases ss.save id.text s ttl w.wall <;> rfl

theorem ensureUser_run (id : String) :
    ensureUser id ds w = .ok (w.ensureUser id).1 (w.ensureUser id).2 := by
  rw [ensureUser, bind_ok wallNow_run, bind_ok world_run, World.ensureUser, World.tick_stores]
  cases h : w.stores <;> rfl

theorem saveLoginInfo_run (info : LoginInfo) :
    saveLoginInfo info ds w = .ok (w.saveLoginInfo info).1 (w.saveLoginInfo info).2 := by
  rw [saveLoginInfo, bind_ok world_run, World.saveLoginInfo]
  cases h : w.stores <;> rfl

theorem getRole_run (id : String) : getRole id ds w = .ok (w.getRole id).1 (w.getRole id).2 := by
  rw [getRole, bind_ok world_run, World.getRole]
  cases h : w.stores <;> rfl

theorem modifyUser_run (id : String) (f : User → User) :
    modifyUser id f ds w = .ok (w.modifyUser id f).1 (w.modifyUser id f).2 := by
  rw [modifyUser, bind_ok wallNow_run, bind_ok world_run, World.modifyUser, World.tick_stores]
  cases h : w.stores with
  | memory ss us => rfl
  | durable ss us sep => dsimp only; cases us.modify id f w.wall <;> rfl

end Sim

/-! ## Deadlines -/

/-- The scheduler never moves the clock back. -/
theorem le_clockAt (clock k : Nat) : clock ≤ clockAt clock k := by
  rw [clockAt]
  exact Nat.le_add_right _ _

/-- The world once a timer set now for `d` has fired: only the clock has moved, on to the timer's
tick. -/
def World.afterTimer (w : World) (d : Duration) : World :=
  { w with clock := clockAt w.clock (tickOf (w.clock + d.toNanos)) }

/-- A timer moves the clock and nothing else. Proofs about the world after a hang go through this
rather than through the clock's value: the hour's tick, unfolded from a clock that is not a
numeral, is counted out millisecond by millisecond. -/
theorem World.afterTimer_eq_clock (w : World) (d : Duration) : ∃ c, w.afterTimer d = { w with clock := c } :=
  ⟨_, rfl⟩

/-- With one deadline, it falls when its tick comes before the wake's. -/
theorem firstToFall_single (d wake : Nat) :
    firstToFall [d] wake = if tickOf d < tickOf wake then some (0, tickOf d) else none := by
  simp only [firstToFall, List.zipIdx_cons, List.zipIdx_nil, List.foldl_cons, List.foldl_nil]

/-- With two deadlines, the one on the earlier tick falls, the inner one on a tie, when its tick
comes before the wake's. -/
theorem firstToFall_pair (d₀ d₁ wake : Nat) :
    firstToFall [d₀, d₁] wake =
      if tickOf d₁ ≤ tickOf d₀ then (if tickOf d₁ < tickOf wake then some (1, tickOf d₁) else none)
      else (if tickOf d₀ < tickOf wake then some (0, tickOf d₀) else none) := by
  rw [firstToFall, List.zipIdx_cons, List.zipIdx_cons, List.zipIdx_nil, List.foldl_cons, List.foldl_cons,
    List.foldl_nil]
  dsimp only
  by_cases h : tickOf d₁ ≤ tickOf d₀
  · rw [if_pos h, if_pos h]
  · rw [if_neg h, if_neg h]

namespace Sim

variable {α ε : Type} {ds : List Nat} {w w' : World}

theorem sleep_of_none {d : Duration} (h : firstToFall ds (w.clock + d.toNanos) = none) :
    sleep d ds w = .ok () (w.afterTimer d) := by
  simp only [sleep, bind, EStateM.bind, get, getThe, MonadStateOf.get, EStateM.get, h]
  rfl

theorem sleep_of_some {d : Duration} {level k : Nat}
    (h : firstToFall ds (w.clock + d.toNanos) = some (level, k)) :
    sleep d ds w = .error ⟨level⟩ { w with clock := clockAt w.clock k } := by
  simp only [sleep, bind, EStateM.bind, get, getThe, MonadStateOf.get, EStateM.get, h]
  rfl

theorem within_of_ok {d : Duration} {act : Sim α} {a : α}
    (h : act (ds ++ [w.clock + d.toNanos]) w = .ok a w') :
    (MonadDeadline.within d act : Sim (Option α)) ds w = .ok (some a) w' := by
  simp only [MonadDeadline.within, within, bind, EStateM.bind, get, getThe, MonadStateOf.get, EStateM.get, tryCatch,
    tryCatchThe, MonadExceptOf.tryCatch, EStateM.tryCatch, Functor.map, EStateM.map, h]

theorem within_of_own {d : Duration} {act : Sim α}
    (h : act (ds ++ [w.clock + d.toNanos]) w = .error ⟨ds.length⟩ w') :
    (MonadDeadline.within d act : Sim (Option α)) ds w = .ok none w' := by
  simp only [MonadDeadline.within, within, bind, EStateM.bind, get, getThe, MonadStateOf.get, EStateM.get, tryCatch,
    tryCatchThe, MonadExceptOf.tryCatch, EStateM.tryCatch, Functor.map, EStateM.map, h]
  rfl

theorem within_of_outer {d : Duration} {act : Sim α} {level : Nat}
    (h : act (ds ++ [w.clock + d.toNanos]) w = .error ⟨level⟩ w') (hl : level ≠ ds.length) :
    (MonadDeadline.within d act : Sim (Option α)) ds w = .error ⟨level⟩ w' := by
  simp only [MonadDeadline.within, within, bind, EStateM.bind, get, getThe, MonadStateOf.get, EStateM.get, tryCatch,
    tryCatchThe, MonadExceptOf.tryCatch, EStateM.tryCatch, Functor.map, EStateM.map, h, hl]
  rfl

end Sim

/-! ## Faults -/

namespace Sim

variable {α β : Type} {ds : List Nat} {w : World} {target : Target}

/-- A hang: an hour's sleep, then an answer, unless a deadline falls first. -/
theorem hang_of_none {r : β} (h : firstToFall ds (w.clock + hangTime.toNanos) = none) :
    (sleep hangTime >>= fun _ => (pure r : Sim β)) ds w = .ok r (w.afterTimer hangTime) := by
  rw [bind_ok (sleep_of_none h)]
  rfl

theorem hang_of_some {r : β} {level k : Nat}
    (h : firstToFall ds (w.clock + hangTime.toNanos) = some (level, k)) :
    (sleep hangTime >>= fun _ => (pure r : Sim β)) ds w =
      .error ⟨level⟩ { w with clock := clockAt w.clock k } :=
  bind_fallen (sleep_of_some h) _

theorem storeCall_of_clear {call : Sim (Except StoreError α)} (h : w.faults.modeOf? target = none) :
    storeCall target call ds w = call ds w := by
  rw [storeCall, bind_ok world_run, h]

theorem storeCall_of_hang {call : Sim (Except StoreError α)}
    (h : w.faults.modeOf? target = some .hang) :
    storeCall target call ds w = (sleep hangTime >>= fun _ => pure (.error (.backend "hung"))) ds w := by
  rw [storeCall, bind_ok world_run, h]

theorem storeCall_of_fault {call : Sim (Except StoreError α)} {m : Mode}
    (h : w.faults.modeOf? target = some m) (hm : m ≠ .hang) :
    storeCall target call ds w = .ok (.error m.storeError) w := by
  rw [storeCall, bind_ok world_run, h]
  cases m with
  | hang => exact absurd rfl hm
  | _ => rfl

theorem serviceCall_of_clear {call : Sim (Except GatewayError α)}
    (h : w.faults.modeOf? target = none) : serviceCall target call ds w = call ds w := by
  rw [serviceCall, bind_ok world_run, h]

theorem serviceCall_of_hang {call : Sim (Except GatewayError α)}
    (h : w.faults.modeOf? target = some .hang) :
    serviceCall target call ds w =
      (sleep hangTime >>= fun _ => pure (.error (.unavailable "hung"))) ds w := by
  rw [serviceCall, bind_ok world_run, h]

theorem serviceCall_of_fault {call : Sim (Except GatewayError α)} {m : Mode}
    (h : w.faults.modeOf? target = some m) (hm : m ≠ .hang) :
    serviceCall target call ds w = .ok (.error m.gatewayError) w := by
  rw [serviceCall, bind_ok world_run, h]
  cases m with
  | hang => exact absurd rfl hm
  | _ => rfl

end Sim

/-! ## Bounded calls -/

namespace Access

variable {α ε : Type} {ds : List Nat} {w w' : World} {call : Sim (Except ε α)} {op : String}
  {t : Duration} {lift : ε → AccessError}

theorem bounded_of_ok {r : Except ε α} (h : call (ds ++ [w.clock + t.toNanos]) w = .ok r w') :
    (bounded op t lift call).run ds w = .ok (r.mapError lift) w' := by
  rw [bounded, Sim.run_bind_ok (Sim.run_lift (Sim.within_of_ok h))]
  cases r <;> rfl

theorem bounded_of_own (h : call (ds ++ [w.clock + t.toNanos]) w = .error ⟨ds.length⟩ w') :
    (bounded op t lift call).run ds w = .ok (.error (.timeout op t)) w' := by
  rw [bounded, Sim.run_bind_ok (Sim.run_lift (Sim.within_of_own h))]
  rfl

theorem bounded_of_outer {level : Nat} (h : call (ds ++ [w.clock + t.toNanos]) w = .error ⟨level⟩ w')
    (hl : level ≠ ds.length) : (bounded op t lift call).run ds w = .error ⟨level⟩ w' := by
  rw [bounded, Sim.run_bind_fallen (Sim.run_lift_fallen (Sim.within_of_outer h hl))]

/-- A bounded call depends only on what its call does from the world it starts in. -/
theorem bounded_congr {call' : Sim (Except ε α)} (h : ∀ ds', call ds' w = call' ds' w) :
    (bounded op t lift call).run ds w = (bounded op t lift call').run ds w := by
  cases hc : call' (ds ++ [w.clock + t.toNanos]) w with
  | ok r w' => rw [bounded_of_ok hc, bounded_of_ok ((h _).trans hc)]
  | error f w' =>
    obtain ⟨level⟩ := f
    by_cases hl : level = ds.length
    · subst hl
      rw [bounded_of_own hc, bounded_of_own ((h _).trans hc)]
    · rw [bounded_of_outer hc hl, bounded_of_outer ((h _).trans hc) hl]

/-- A hang under a bounded call: the first deadline to fall within the hour cuts it, and only the
call's own deadline turns into a timeout; when none falls, the call fails with `e` after the
hour. -/
theorem bounded_hang {e : ε} :
    (bounded op t lift (Sim.sleep hangTime >>= fun _ => pure (.error e) : Sim (Except ε α))).run ds w =
      match firstToFall (ds ++ [w.clock + t.toNanos]) (w.clock + hangTime.toNanos) with
      | none => .ok (.error (lift e)) (w.afterTimer hangTime)
      | some (level, k) =>
        if level = ds.length then .ok (.error (.timeout op t)) { w with clock := clockAt w.clock k }
        else .error ⟨level⟩ { w with clock := clockAt w.clock k } := by
  cases hf : firstToFall (ds ++ [w.clock + t.toNanos]) (w.clock + hangTime.toNanos) with
  | none => exact bounded_of_ok (Sim.hang_of_none hf)
  | some fall =>
    obtain ⟨level, k⟩ := fall
    by_cases hl : level = ds.length
    · subst hl
      dsimp only
      rw [if_pos rfl]
      exact bounded_of_own (Sim.hang_of_some hf)
    · dsimp only
      rw [if_neg hl]
      exact bounded_of_outer (Sim.hang_of_some hf) hl

/-- A hang under a bounded call, from the top level: the call's own deadline falls when its tick
comes before the end of the hour's, and otherwise the hour ends and the call fails with `e`. -/
theorem bounded_hang_top {e : ε} :
    (bounded op t lift (Sim.sleep hangTime >>= fun _ => pure (.error e) : Sim (Except ε α))).run [] w =
      if tickOf (w.clock + t.toNanos) < tickOf (w.clock + hangTime.toNanos) then
        .ok (.error (.timeout op t)) (w.afterTimer t)
      else .ok (.error (lift e)) (w.afterTimer hangTime) := by
  have hfall := firstToFall_single (w.clock + t.toNanos) (w.clock + hangTime.toNanos)
  by_cases hlt : tickOf (w.clock + t.toNanos) < tickOf (w.clock + hangTime.toNanos)
  · have hcut : firstToFall ([] ++ [w.clock + t.toNanos]) (w.clock + hangTime.toNanos) =
        some (0, tickOf (w.clock + t.toNanos)) := by
      rw [List.nil_append, hfall, if_pos hlt]
    rw [bounded_of_own (Sim.hang_of_some hcut), if_pos hlt]
    rfl
  · have hpass : firstToFall ([] ++ [w.clock + t.toNanos]) (w.clock + hangTime.toNanos) = none := by
      rw [List.nil_append, hfall, if_neg hlt]
    rw [bounded_of_ok (Sim.hang_of_none hpass), if_neg hlt]
    rfl

end Access

/-! ## From the top level -/

/-- What a call behind the faults on `target`, bounded by `t`, answers from the top level, and the
world after it. The call itself answers `r` when it is reached. An injected fault answers at
once with the failure of its mode; a hang lasts until the call's deadline when that comes within
the hour, and otherwise fails after the hour with `hung`. -/
def topAnswer {α ε : Type} (w : World) (target : Target) (op : String) (t : Duration)
    (lift : ε → AccessError) (injected : Mode → ε) (hung : ε) (r : Except ε α × World) :
    Except AccessError α × World :=
  match w.faults.modeOf? target with
  | none => (r.1.mapError lift, r.2)
  | some .hang =>
    if tickOf (w.clock + t.toNanos) < tickOf (w.clock + hangTime.toNanos) then
      (.error (.timeout op t), w.afterTimer t)
    else (.error (lift hung), w.afterTimer hangTime)
  | some m => (.error (lift (injected m)), w)

/-- The top-level answer of a store call. -/
def topStoreAnswer {α : Type} (w : World) (target : Target) (op : String) (t : Duration)
    (r : Except StoreError α × World) : Except AccessError α × World :=
  topAnswer w target op t .storage Mode.storeError (.backend "hung") r

/-- A store call fails, from the top level, only as a store or as a call that timed out. -/
theorem topStoreAnswer_error {α : Type} {w : World} {target : Target} {op : String} {t : Duration}
    {r : Except StoreError α × World} {e : AccessError}
    (h : (topStoreAnswer w target op t r).1 = .error e) :
    (∃ se, e = .storage se) ∨ e = .timeout op t := by
  unfold topStoreAnswer topAnswer at h
  split at h
  · cases hr : r.1 with
    | ok a => rw [hr] at h; cases h
    | error se => rw [hr] at h; cases h; exact .inl ⟨se, rfl⟩
  · split at h
    · cases h; exact .inr rfl
    · cases h; exact .inl ⟨_, rfl⟩
  · cases h; exact .inl ⟨_, rfl⟩

/-- What holds of the world a call leaves, of the world the call starts in, and of that world with
its virtual clock moved, holds of the world the call leaves behind its faults. -/
theorem topAnswer_snd {α ε : Type} {P : World → Prop} {w : World} {target : Target} {op : String}
    {t : Duration} {lift : ε → AccessError} {injected : Mode → ε} {hung : ε} {r : Except ε α × World}
    (hr : P r.2) (hw : P w) (hclock : ∀ c, P { w with clock := c }) :
    P (topAnswer w target op t lift injected hung r).2 := by
  unfold topAnswer
  split
  · exact hr
  · split
    · exact hclock _
    · exact hclock _
  · exact hw

/-- A call with no fault set on it answers what the call itself answers, its failure lifted. -/
theorem topAnswer_of_clear {α ε : Type} {w : World} {target : Target} {op : String} {t : Duration}
    {lift : ε → AccessError} {injected : Mode → ε} {hung : ε} (r : Except ε α × World)
    (h : w.faults.modeOf? target = none) :
    topAnswer w target op t lift injected hung r = (r.1.mapError lift, r.2) := by
  unfold topAnswer
  rw [h]

section TopAnswer

variable {α ε : Type} {w : World} {target : Target} {op : String} {t : Duration} {lift : ε → AccessError}
  {injected : Mode → ε} {hung : ε} {r : Except ε α × World}

/-- A call that succeeds from the top level was reached and succeeded, and leaves the world it
left. -/
theorem topAnswer_of_ok {a : α} (h : (topAnswer w target op t lift injected hung r).1 = .ok a) :
    r.1 = .ok a ∧ (topAnswer w target op t lift injected hung r).2 = r.2 := by
  revert h
  unfold topAnswer
  cases hm : w.faults.modeOf? target with
  | none =>
    intro h
    cases hr : r.1 with
    | ok b => rw [hr] at h; cases h; exact ⟨rfl, rfl⟩
    | error e => rw [hr] at h; cases h
  | some m =>
    intro h
    cases m with
    | hang => dsimp only at h; split at h <;> cases h
    | _ => cases h

/-- A call that fails from the top level either was reached and failed, leaving the world it left,
or was stopped by its fault, leaving the world it started in with at most its clock moved. -/
theorem topAnswer_of_error {e : AccessError} (h : (topAnswer w target op t lift injected hung r).1 = .error e) :
    (∃ e', r.1 = .error e' ∧ (topAnswer w target op t lift injected hung r).2 = r.2) ∨
      ∃ c, (topAnswer w target op t lift injected hung r).2 = { w with clock := c } := by
  revert h
  unfold topAnswer
  cases hm : w.faults.modeOf? target with
  | none =>
    intro h
    cases hr : r.1 with
    | ok b => rw [hr] at h; cases h
    | error e' => exact .inl ⟨e', rfl, rfl⟩
  | some m =>
    intro _
    -- a fault answers without reaching the call, moving the clock only when it hangs
    cases m with
    | hang =>
      dsimp only
      split
      · exact .inr (w.afterTimer_eq_clock t)
      · exact .inr (w.afterTimer_eq_clock hangTime)
    | _ => exact .inr ⟨w.clock, rfl⟩

/-- What a call answers from the top level, whatever world it leaves. -/
theorem topAnswer_fst : (topAnswer w target op t lift injected hung r).1 =
    match w.faults.modeOf? target with
    | none => r.1.mapError lift
    | some .hang =>
      if tickOf (w.clock + t.toNanos) < tickOf (w.clock + hangTime.toNanos) then .error (.timeout op t)
      else .error (lift hung)
    | some m => .error (lift (injected m)) := by
  unfold topAnswer
  cases w.faults.modeOf? target with
  | none => rfl
  | some m =>
    cases m
    case hang => dsimp only; split <;> rfl
    all_goals rfl

/-- What a call answers from the top level depends on the world only through its faults and its
clock, and on the call only through the call's answer. -/
theorem topAnswer_fst_congr {w' : World} {r' : Except ε α × World} (hf : w'.faults = w.faults)
    (hc : w'.clock = w.clock) (hr : r'.1 = r.1) :
    (topAnswer w' target op t lift injected hung r').1 = (topAnswer w target op t lift injected hung r).1 := by
  rw [topAnswer_fst, topAnswer_fst, hf, hc, hr]

end TopAnswer

namespace Access

variable {α : Type} {w : World} {target : Target} {op : String} {t : Duration}

/-- A store call bounded by `t`, run from the top level, answers `topStoreAnswer`. -/
theorem boundedStore_top {call : Sim (Except StoreError α)} {r : Except StoreError α × World}
    (hcall : ∀ ds, call ds w = .ok r.1 r.2) :
    (boundedStore op t (Sim.storeCall target call)).run [] w =
      .ok (topStoreAnswer w target op t r).1 (topStoreAnswer w target op t r).2 := by
  unfold topStoreAnswer topAnswer boundedStore
  cases hm : w.faults.modeOf? target with
  | none => exact bounded_of_ok ((Sim.storeCall_of_clear hm).trans (hcall _))
  | some m =>
    cases m with
    | hang =>
      rw [bounded_congr fun _ => Sim.storeCall_of_hang hm, bounded_hang_top]
      split <;> rfl
    | _ => exact bounded_of_ok (Sim.storeCall_of_fault hm (by decide))

end Access

/-! ## How a run ends -/

namespace Sim

variable {α β ε : Type} {ds : List Nat} {w : World}

/-- What a run of `y` from `w` under `ds` ends in: `Q` of the value and the world after a
success, and `P` of the world after any way to stop short, given the error when there is one
(none when a deadline cut the run). -/
def Ends (y : ExceptT ε Sim α) (ds : List Nat) (w : World) (Q : α → World → Prop)
    (P : Option ε → World → Prop) : Prop :=
  match y.run ds w with
  | .ok (.ok a) w' => Q a w'
  | .ok (.error e) w' => P (some e) w'
  | .error _ w' => P none w'

variable {y : ExceptT ε Sim α} {Q Q' : α → World → Prop} {P P' : Option ε → World → Prop}

theorem ends_of_ok {a : α} {w' : World} (h : y.run ds w = .ok (.ok a) w') (hQ : Q a w') :
    Ends y ds w Q P := by
  rw [Ends, h]
  exact hQ

theorem ends_of_error {e : ε} {w' : World} (h : y.run ds w = .ok (.error e) w') (hP : P (some e) w') :
    Ends y ds w Q P := by
  rw [Ends, h]
  exact hP

theorem ends_of_fallen {f : Fallen} {w' : World} (h : y.run ds w = .error f w') (hP : P none w') :
    Ends y ds w Q P := by
  rw [Ends, h]
  exact hP

theorem Ends.error {e : ε} {w' : World} (hy : Ends y ds w Q P) (h : y.run ds w = .ok (.error e) w') :
    P (some e) w' := by
  rw [Ends, h] at hy
  exact hy

theorem Ends.mono (hy : Ends y ds w Q P) (hQ : ∀ a w', Q a w' → Q' a w')
    (hP : ∀ e? w', P e? w' → P' e? w') : Ends y ds w Q' P' := by
  unfold Ends at hy ⊢
  cases h : y.run ds w with
  | ok r w' =>
    rw [h] at hy
    cases r with
    | ok a => exact hQ a w' hy
    | error e => exact hP _ w' hy
  | error f w' =>
    rw [h] at hy
    exact hP _ w' hy

/-- A sequence ends as its second part does after a success of the first, and as the first part
stops short otherwise. -/
theorem ends_bind {f : α → ExceptT ε Sim β} {R : β → World → Prop} (hy : Ends y ds w Q P)
    (hf : ∀ a w₁, Q a w₁ → Ends (f a) ds w₁ R P) : Ends (y >>= f) ds w R P := by
  unfold Ends at hy
  cases h : y.run ds w with
  | ok r w₁ =>
    rw [h] at hy
    cases r with
    | ok a =>
      unfold Ends
      rw [run_bind_ok h]
      exact hf a w₁ hy
    | error e => exact ends_of_error (run_bind_error h f) hy
  | error e w₁ =>
    rw [h] at hy
    exact ends_of_fallen (run_bind_fallen h f) hy

theorem ends_pure (a : α) (hQ : Q a w) : Ends (pure a : ExceptT ε Sim α) ds w Q P :=
  ends_of_ok rfl hQ

end Sim

namespace Access

variable {α ε : Type} {ds : List Nat} {w w' : World} {call : Sim (Except ε α)} {op : String}
  {t : Duration} {lift : ε → AccessError} {Q : α → World → Prop} {P : Option AccessError → World → Prop}

theorem bounded_ends_of_ok {r : Except ε α} (h : call (ds ++ [w.clock + t.toNanos]) w = .ok r w')
    (hQ : ∀ a, r = .ok a → Q a w') (hP : ∀ e, r = .error e → P (some (lift e)) w') :
    Sim.Ends (bounded op t lift call) ds w Q P := by
  cases r with
  | ok a => exact Sim.ends_of_ok (bounded_of_ok h) (hQ a rfl)
  | error e => exact Sim.ends_of_error (bounded_of_ok h) (hP e rfl)

/-- A hang under a bounded call never succeeds: it fails as the hang or times out, or an outer
deadline cuts it, and only the clock has moved. -/
theorem bounded_ends_of_hang {e : ε}
    (hP : ∀ c e?, (∀ e', e? = some e' → e' = lift e ∨ e' = .timeout op t) → P e? { w with clock := c }) :
    Sim.Ends (bounded op t lift (Sim.sleep hangTime >>= fun _ => pure (.error e) : Sim (Except ε α))) ds w
      Q P := by
  have h : (bounded op t lift (Sim.sleep hangTime >>= fun _ => pure (.error e) : Sim (Except ε α))).run
      ds w = _ := bounded_hang
  cases hf : firstToFall (ds ++ [w.clock + t.toNanos]) (w.clock + hangTime.toNanos) with
  | none =>
    rw [hf] at h
    exact Sim.ends_of_error h (hP _ _ fun _ he => .inl (Option.some.inj he).symm)
  | some fall =>
    obtain ⟨level, k⟩ := fall
    rw [hf] at h
    dsimp only at h
    split at h
    · exact Sim.ends_of_error h (hP _ _ fun _ he => .inr (Option.some.inj he).symm)
    · exact Sim.ends_of_fallen h (hP _ _ fun _ he => nomatch he)

variable {target : Target}

/-- A store call behind its faults, under its deadline, ends as the call does when no fault is
set. With one set, it stops short with a store error or its own timeout, or cut by an outer
deadline, and only the clock has moved. -/
theorem boundedStore_ends {call : Sim (Except StoreError α)} {v : Except StoreError α} {w₁ : World}
    (hcall : ∀ ds', call ds' w = .ok v w₁)
    (hQ : ∀ a, v = .ok a → w.faults.modeOf? target = none → Q a w₁)
    (hown : ∀ se, v = .error se → P (some (.storage se)) w₁)
    (hfault : ∀ c e?, (∀ e, e? = some e → (∃ se, e = .storage se) ∨ e = .timeout op t) →
      P e? { w with clock := c }) :
    Sim.Ends (boundedStore op t (Sim.storeCall target call)) ds w Q P := by
  cases hm : w.faults.modeOf? target with
  | none => exact bounded_ends_of_ok ((Sim.storeCall_of_clear hm).trans (hcall _)) (fun a h => hQ a h hm) hown
  | some m =>
    cases m with
    | hang =>
      unfold Sim.Ends
      rw [boundedStore, bounded_congr fun _ => Sim.storeCall_of_hang hm]
      exact bounded_ends_of_hang fun c e? he => hfault c e? fun e h => (he e h).imp_left fun h => ⟨_, h⟩
    | _ =>
      refine bounded_ends_of_ok (Sim.storeCall_of_fault hm (by decide)) (fun _ h => nomatch h) ?_
      rintro _ ⟨⟩
      exact hfault w.clock _ fun _ he => .inl ⟨_, (Option.some.inj he).symm⟩

/-- A call to the identity provider behind its faults, under its deadline, ends as the call does
when no fault is set. With one set, it stops short with a gateway error or its own timeout, or
cut by an outer deadline, and only the clock has moved. -/
theorem boundedGateway_ends {call : Sim (Except GatewayError α)} {v : Except GatewayError α} {w₁ : World}
    (hcall : ∀ ds', call ds' w = .ok v w₁)
    (hQ : ∀ a, v = .ok a → w.faults.modeOf? target = none → Q a w₁)
    (hown : ∀ ge, v = .error ge → P (some (.gateway ge)) w₁)
    (hfault : ∀ c e?, (∀ e, e? = some e → (∃ ge, e = .gateway ge) ∨ e = .timeout op t) →
      P e? { w with clock := c }) :
    Sim.Ends (boundedGateway op t (Sim.serviceCall target call)) ds w Q P := by
  cases hm : w.faults.modeOf? target with
  | none => exact bounded_ends_of_ok ((Sim.serviceCall_of_clear hm).trans (hcall _)) (fun a h => hQ a h hm) hown
  | some m =>
    cases m with
    | hang =>
      unfold Sim.Ends
      rw [boundedGateway, bounded_congr fun _ => Sim.serviceCall_of_hang hm]
      exact bounded_ends_of_hang fun c e? he => hfault c e? fun e h => (he e h).imp_left fun h => ⟨_, h⟩
    | _ =>
      refine bounded_ends_of_ok (Sim.serviceCall_of_fault hm (by decide)) (fun _ h => nomatch h) ?_
      rintro _ ⟨⟩
      exact hfault w.clock _ fun _ he => .inl ⟨_, (Option.some.inj he).symm⟩

end Access

/-! ## What every run keeps -/

namespace Sim

variable {α β ε : Type} (R : World → World → Prop)

/-- Every run of `x`, under any deadlines and from any world, leaves a world that `R` relates to
the one it started from, whether it finishes or a deadline cuts it. -/
def Keeps (x : Sim α) : Prop :=
  ∀ ds w, match x ds w with
    | .ok _ w' => R w w'
    | .error _ w' => R w w'

variable {R}

theorem keeps_of_run {x : Sim α} {f : World → World} (h : ∀ ds w, ∃ a, x ds w = .ok a (f w)) (hf : ∀ w, R w (f w)) :
    Keeps R x := by
  intro ds w
  obtain ⟨a, ha⟩ := h ds w
  rw [ha]
  exact hf w

theorem keeps_pure [IsPreorder World R] (a : α) : Keeps R (pure a) :=
  keeps_of_run (fun _ _ => ⟨a, rfl⟩) (refl_of R)

theorem keeps_world [IsPreorder World R] : Keeps R world :=
  keeps_of_run (fun _ w => ⟨w, rfl⟩) (refl_of R)

theorem keeps_change {f : World → World} (hf : ∀ w, R w (f w)) : Keeps R (change f) :=
  keeps_of_run (fun _ _ => ⟨(), rfl⟩) hf

theorem keeps_bind [IsPreorder World R] {x : Sim α} {f : α → Sim β} (hx : Keeps R x)
    (hf : ∀ a, Keeps R (f a)) : Keeps R (x >>= f) := by
  intro ds w
  have h := hx ds w
  cases hr : x ds w with
  | ok a w₁ =>
    rw [hr] at h
    have h' := hf a ds w₁
    rw [bind_ok hr]
    cases hf' : f a ds w₁ with
    | ok b w₂ =>
      rw [hf'] at h'
      exact trans_of R h h'
    | error e w₂ =>
      rw [hf'] at h'
      exact trans_of R h h'
  | error e w₁ =>
    rw [hr] at h
    rw [bind_fallen hr]
    exact h

/-- A sleep moves only the clock, and only forward. -/
theorem keeps_sleep (hclock : ∀ w c, w.clock ≤ c → R w { w with clock := c }) (d : Duration) :
    Keeps R (sleep d) := by
  intro ds w
  cases hf : firstToFall ds (w.clock + d.toNanos) with
  | none =>
    rw [sleep_of_none hf]
    exact hclock w _ (le_clockAt _ _)
  | some fall =>
    rw [sleep_of_some hf]
    exact hclock w _ (le_clockAt _ _)

/-- A deadline keeps what its computation keeps, whether it falls or not. -/
theorem keeps_within {x : Sim α} (hx : Keeps R x) (d : Duration) :
    Keeps R (MonadDeadline.within d x : Sim (Option α)) := by
  intro ds w
  have h := hx (ds ++ [w.clock + d.toNanos]) w
  cases hr : x (ds ++ [w.clock + d.toNanos]) w with
  | ok a w' =>
    rw [hr] at h
    rw [within_of_ok hr]
    exact h
  | error f w' =>
    rw [hr] at h
    obtain ⟨level⟩ := f
    by_cases hl : level = ds.length
    · subst hl
      rw [within_of_own hr]
      exact h
    · rw [within_of_outer hr hl]
      exact h

theorem keeps_storeCall [IsPreorder World R] (hclock : ∀ w c, w.clock ≤ c → R w { w with clock := c })
    {call : Sim (Except StoreError α)} (hcall : Keeps R call) (target : Target) :
    Keeps R (storeCall target call) := by
  intro ds w
  cases hm : w.faults.modeOf? target with
  | none =>
    rw [storeCall_of_clear hm]
    exact hcall ds w
  | some m =>
    cases m with
    | hang =>
      rw [storeCall_of_hang hm]
      exact keeps_bind (keeps_sleep hclock _) (fun _ => keeps_pure _) ds w
    | _ =>
      rw [storeCall_of_fault hm (by decide)]
      exact refl_of R w

theorem keeps_serviceCall [IsPreorder World R] (hclock : ∀ w c, w.clock ≤ c → R w { w with clock := c })
    {call : Sim (Except GatewayError α)} (hcall : Keeps R call) (target : Target) :
    Keeps R (serviceCall target call) := by
  intro ds w
  cases hm : w.faults.modeOf? target with
  | none =>
    rw [serviceCall_of_clear hm]
    exact hcall ds w
  | some m =>
    cases m with
    | hang =>
      rw [serviceCall_of_hang hm]
      exact keeps_bind (keeps_sleep hclock _) (fun _ => keeps_pure _) ds w
    | _ =>
      rw [serviceCall_of_fault hm (by decide)]
      exact refl_of R w

/-! ### Through the failures of a service -/

theorem keeps_exceptBind [IsPreorder World R] {y : ExceptT ε Sim α} {f : α → ExceptT ε Sim β}
    (hy : Keeps R y.run) (hf : ∀ a, Keeps R (f a).run) : Keeps R (y >>= f).run := by
  rw [ExceptT.run_bind]
  refine keeps_bind hy fun r => ?_
  cases r with
  | ok a => exact hf a
  | error e => exact keeps_pure _

theorem keeps_exceptPure [IsPreorder World R] (a : α) : Keeps R (pure a : ExceptT ε Sim α).run :=
  keeps_pure _

theorem keeps_throw [IsPreorder World R] (e : ε) : Keeps R (throw e : ExceptT ε Sim α).run :=
  keeps_pure _

/-- A failure ends the sequence it starts. -/
theorem keeps_throwBind [IsPreorder World R] (e : ε) (f : α → ExceptT ε Sim β) :
    Keeps R (throw e >>= f : ExceptT ε Sim β).run := by
  rw [ExceptT.bind_throw]
  exact keeps_throw e

theorem keeps_exceptLift [IsPreorder World R] {x : Sim α} (hx : Keeps R x) :
    Keeps R (ExceptT.lift x : ExceptT ε Sim α).run := by
  rw [ExceptT.run_lift]
  exact keeps_bind hx fun _ => keeps_pure _

theorem keeps_tryCatch [IsPreorder World R] {y : ExceptT ε Sim α} {handler : ε → ExceptT ε Sim α}
    (hy : Keeps R y.run) (hh : ∀ e, Keeps R (handler e).run) : Keeps R (tryCatch y handler).run := by
  rw [ExceptT.run_tryCatch]
  refine keeps_bind hy fun r => ?_
  cases r with
  | ok a => exact keeps_pure _
  | error e => exact hh e

/-! ### Where a run ends -/

/-- The world a run of `x` from `w` under `ds` ends in, whether it finished or a deadline cut it. -/
def endOf (x : Sim α) (ds : List Nat) (w : World) : World :=
  match x ds w with
  | .ok _ w' => w'
  | .error _ w' => w'

variable {ds : List Nat} {w w₁ : World}

theorem endOf_of_ok {x : Sim α} {a : α} (h : x ds w = .ok a w₁) : endOf x ds w = w₁ := by
  rw [endOf, h]

theorem endOf_of_fallen {x : Sim α} {f : Fallen} (h : x ds w = .error f w₁) : endOf x ds w = w₁ := by
  rw [endOf, h]

theorem endOf_bind_ok {x : Sim α} {a : α} (h : x ds w = .ok a w₁) (f : α → Sim β) :
    endOf (x >>= f) ds w = endOf (f a) ds w₁ := by
  rw [endOf, bind_ok h]
  rfl

theorem endOf_of_eq {x y : Sim α} {ds' : List Nat} {w' : World} (h : x ds w = y ds' w') :
    endOf x ds w = endOf y ds' w' := by
  unfold endOf
  rw [h]

/-- A scenario's step leaves the world its run from the top ends in. -/
theorem runTop_snd (x : Sim α) (w : World) : (runTop x w).2 = endOf x [] w := by
  unfold runTop endOf
  rw [EStateM.run]
  cases x [] w <;> rfl

theorem Keeps.endOf {x : Sim α} (h : Keeps R x) (ds : List Nat) (w : World) : R w (endOf x ds w) := by
  have hx := h ds w
  unfold Sim.endOf
  cases hr : x ds w with
  | ok a w' =>
    rw [hr] at hx
    exact hx
  | error f w' =>
    rw [hr] at hx
    exact hx

/-- What a sequence adds to where its first part ends is what its second part keeps. -/
theorem Keeps.endOf_bind [IsPreorder World R] {x : Sim α} {f : α → Sim β} (hf : ∀ a, Keeps R (f a))
    (ds : List Nat) (w : World) : R (Sim.endOf x ds w) (Sim.endOf (x >>= f) ds w) := by
  cases hx : x ds w with
  | ok a w₁ =>
    rw [endOf_of_ok hx, endOf_bind_ok hx]
    exact (hf a).endOf ds w₁
  | error e w₁ =>
    rw [endOf_of_fallen hx, endOf_of_fallen (bind_fallen hx f)]
    exact refl_of R w₁

/-- A service that keeps `R` ends, whichever way, in a world that `R` relates to its start. -/
theorem Keeps.ends {y : ExceptT ε Sim α} (h : Keeps R y.run) (ds : List Nat) (w : World) :
    Ends y ds w (fun _ w' => R w w') (fun _ w' => R w w') := by
  have hy := h ds w
  unfold Ends
  cases hr : y.run ds w with
  | ok r w' =>
    rw [hr] at hy
    cases r <;> exact hy
  | error f w' =>
    rw [hr] at hy
    exact hy

end Sim

namespace Access

variable {α ε : Type} {R : World → World → Prop} [IsPreorder World R]

/-- A bounded call keeps what its call keeps. -/
theorem keeps_bounded {call : Sim (Except ε α)} (hcall : Sim.Keeps R call) (op : String)
    (t : Duration) (lift : ε → AccessError) : Sim.Keeps R (bounded op t lift call).run := by
  unfold bounded
  refine Sim.keeps_exceptBind (Sim.keeps_exceptLift (Sim.keeps_within hcall t)) fun r => ?_
  split
  · exact Sim.keeps_exceptPure _
  · exact Sim.keeps_throw _
  · exact Sim.keeps_throw _

end Access

end Warden
