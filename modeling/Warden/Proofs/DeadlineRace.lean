import Warden.Proofs.SignIn

/-!
# Racing deadlines

Deadlines are instants of the virtual clock, in nanoseconds, and the scheduler's timers fire on
millisecond ticks, each on the first tick at or after the instant it was set for (`tickOf`). What
decides a race between two timers set from one instant is the order of their ticks, not of their
instants: two timeouts that differ by less than a millisecond can fall on one tick, and then the
call under the inner one is polled first and wins.

## A bounded call

A call that is ready at once answers its own answer whatever its deadline, zero included. A call
that is ready after `δ`, under a deadline `d`, answers its own answer when the tick of `δ` comes no
later than the tick of `d`, and times out naming its operation and `d` otherwise
(`Access.bounded_ready_top`).

## A sign-in whose provider hangs

When the provider never answers, the lookup of the login information waits until its own
deadline, the gateway timeout, or until the provider gives up after an hour, whichever tick comes
first (`World.lookupTick_eq`); all of it inside the login deadline. If the lookup's tick comes no
later than the login deadline's, the sign-in goes on with the token reader's user and opens its
session; otherwise the login deadline cuts it, with nothing written
(`Access.signIn_of_hanging_provider`).
-/

namespace Warden

/-! ## Ticks -/

/-- A later instant never fires on an earlier tick. -/
theorem tickOf_mono : Monotone tickOf := by
  intro a b hab
  unfold tickOf
  split <;> split <;> omega

/-- Of two instants, the earlier fires on the earlier tick. -/
theorem tickOf_min (a b : Nat) : tickOf (min a b) = min (tickOf a) (tickOf b) :=
  tickOf_mono.map_min

/-- The provider gives up on the tick of its effective deadline: the shorter of the gateway
timeout and the hour. -/
theorem World.lookupTick_eq (w : World) :
    w.lookupTick = tickOf (w.clock + min w.settings.gatewayTimeout.toNanos hangTime.toNanos) := by
  rw [World.lookupTick, ← tickOf_min, Nat.add_min_add_left]

/-- The login deadline cuts a provider that hangs exactly when its tick comes before the tick of
the provider's effective deadline. -/
theorem World.lookupCut_iff {w : World} (h : w.providerHangs = true) :
    w.lookupCut = true ↔ tickOf (w.clock + w.settings.loginTimeout.toNanos) < w.lookupTick := by
  rw [World.lookupCut_of_hangs h, World.lookupTick, Nat.lt_min]

namespace Access

/-! ## A bounded call -/

variable {α ε : Type} {op : String} {d δ : Duration} {lift : ε → AccessError} {r : Except ε α}

/-- A call that is ready at once answers its own answer from the top level, errors lifted,
whatever its deadline. -/
theorem bounded_pure_top (w : World) :
    (bounded op d lift (pure r : Sim (Except ε α))).run [] w = .ok (r.mapError lift) w :=
  bounded_of_ok rfl

/-- A call that is ready after `δ`, under the deadline `d`, from the top level: its own answer,
errors lifted, when it is ready by the deadline's tick, and a timeout naming the operation
otherwise. -/
theorem bounded_ready_top (w : World) :
    (bounded op d lift (Sim.sleep δ >>= fun _ => pure r : Sim (Except ε α))).run [] w =
      if tickOf (w.clock + δ.toNanos) ≤ tickOf (w.clock + d.toNanos) then .ok (r.mapError lift) (w.afterTimer δ)
      else .ok (.error (.timeout op d)) (w.afterTimer d) := by
  have hfall := firstToFall_single (w.clock + d.toNanos) (w.clock + δ.toNanos)
  by_cases hle : tickOf (w.clock + δ.toNanos) ≤ tickOf (w.clock + d.toNanos)
  · -- the call is ready first, or on the deadline's own tick, where it is polled before the timer
    have hpass : firstToFall ([] ++ [w.clock + d.toNanos]) (w.clock + δ.toNanos) = none := by
      rw [List.nil_append, hfall, if_neg (Nat.not_lt.2 hle)]
    rw [bounded_of_ok ((Sim.bind_ok (Sim.sleep_of_none hpass) _).trans rfl), if_pos hle]
  · have hcut : firstToFall ([] ++ [w.clock + d.toNanos]) (w.clock + δ.toNanos) =
        some (0, tickOf (w.clock + d.toNanos)) := by
      rw [List.nil_append, hfall, if_pos (Nat.lt_of_not_le hle)]
    rw [bounded_of_own (Sim.bind_fallen (Sim.sleep_of_some hcut) _), if_neg hle]
    rfl

/-! ## A sign-in whose provider hangs -/

variable {w : World} {ss : MemorySessions} {us : MemoryUsers} {uid code : String}

/-- In memory and without faults, with a provider that hangs and a token reader that gives the
user `uid`: when the login deadline does not cut the lookup, and the session's expiry from the
lookup's end is one the clock can hold, the sign-in opens a session for `uid` under the next id at
the instant the lookup ends, the user created if missing; when it cuts the lookup, the sign-in
times out on the deadline's tick, moving only the clock. -/
theorem signIn_of_hanging_provider (state : String) (ttl : Duration) (hmem : w.stores = .memory ss us) (hclear : w.faults = Faults.none)
    (hhang : w.identity.reply = .hang) (huid : w.uidSource.userId w.identity.accessToken = .ok uid)
    (hcode : code.isEmpty = false) :
    let lookupEnd := clockAt w.clock w.lookupTick
    let sid := World.sessionIdOf (w.idsIssued + 1)
    let run := (w.services.auth.completeOAuthToSession code state ttl).run [] w
    (w.lookupCut = false → monotonicOrigin + (lookupEnd + ttl.toNanos) / 1000000000 ≤ i64Max →
      ∃ w', run = .ok (.ok ⟨sid, uid⟩) w' ∧ w'.clock = lookupEnd ∧
        w'.stores = .memory ⟨(sid.text, ⟨⟨uid, w.identity.tokens⟩, lookupEnd + ttl.toNanos⟩) ::
          (ss.erase sid.text).entries⟩ (us.ensureExists uid w.wall)) ∧
    (w.lookupCut = true →
      run = .ok (.error (.timeout "complete_oauth" w.settings.loginTimeout)) (w.afterTimer w.settings.loginTimeout)) := by
  intro lookupEnd sid run
  have hsc := World.signInClear_of_none hclear
  -- the provider hangs and names no one, so the sign-in is for the token reader's user
  have hprov : w.providerInfo? = none := by rw [World.providerInfo?, hclear, hhang]; rfl
  have hhangs : w.providerHangs = true := by rw [World.providerHangs, hclear, hhang]; rfl
  have hid : w.signInIdentity = .ok (uid, none) := by rw [World.signInIdentity_of_none hprov, huid]; rfl
  refine ⟨fun hnocut hfit => ?_, fun hiscut => ?_⟩
  · have hdone : ((worldAuth w.uidSource w.settings).complete code state ttl).run
        [w.clock + w.settings.loginTimeout.toNanos] w = _ := complete_of_identity hmem hsc hcode hnocut hid
    have hW := World.recordSignIn_writesOnly w.identified uid none
    have hclock : (w.identified.recordSignIn uid none).clock = lookupEnd := by
      rw [hW.clock]
      exact World.clock_add_lookupWait hhangs
    have hexp : MemorySessions.expiry? (w.identified.recordSignIn uid none).clock ttl =
        some (lookupEnd + ttl.toNanos) := by
      rw [hclock, MemorySessions.expiry?, if_neg (Nat.not_lt.2 hfit)]
    dsimp only at hdone
    rw [hexp, hW.idsIssued] at hdone
    exact ⟨_, completeOAuth_of_done hdone, hclock, rfl⟩
  · -- the login deadline falls while the provider still hangs
    exact completeOAuth_of_cut ((complete_of_clear hmem hsc hcode).trans (if_pos hiscut))

end Access

/-! ## The race on ticks -/

/-- **The login deadline against a hanging provider.** In memory and without faults, with a
provider that hangs and a token reader that gives `uid`: when the lookup's effective deadline, the
gateway timeout or the provider's hour, falls on a tick no later than the login deadline's, the
sign-in opens a session for `uid` on the lookup's tick, the user created if missing, provided the
session's expiry can be held; when it falls on a later tick, the sign-in times out as
`complete_oauth` on the login deadline's tick with both stores as they were. A call ready at once
answers its own answer, errors lifted, under any deadline; a call ready after `δ` does so when its
tick comes no later than its deadline's, and times out naming its operation and deadline
otherwise; ties go to the call. -/
theorem hanging_provider_races_login_deadline (w : World) (ss : MemorySessions) (us : MemoryUsers)
    (uid code state : String) (ttl : Duration) (hmem : w.stores = .memory ss us)
    (hclear : w.faults = Faults.none) (hhang : w.identity.reply = .hang)
    (huid : w.uidSource.userId w.identity.accessToken = .ok uid) (hcode : code.isEmpty = false) :
    let lookupDeadline := w.clock + min w.settings.gatewayTimeout.toNanos hangTime.toNanos
    let loginDeadline := w.clock + w.settings.loginTimeout.toNanos
    let lookupEnd := clockAt w.clock (tickOf lookupDeadline)
    let sid := World.sessionIdOf (w.idsIssued + 1)
    let run := (w.services.auth.completeOAuthToSession code state ttl).run [] w
    (tickOf lookupDeadline ≤ tickOf loginDeadline →
      monotonicOrigin + (lookupEnd + ttl.toNanos) / 1000000000 ≤ i64Max →
      ∃ w', run = .ok (.ok ⟨sid, uid⟩) w' ∧ w'.clock = lookupEnd ∧
        w'.stores = .memory ⟨(sid.text, ⟨⟨uid, w.identity.tokens⟩, lookupEnd + ttl.toNanos⟩) ::
          (ss.erase sid.text).entries⟩ (us.ensureExists uid w.wall)) ∧
    (tickOf loginDeadline < tickOf lookupDeadline →
      run = .ok (.error (.timeout "complete_oauth" w.settings.loginTimeout))
        { w with clock := clockAt w.clock (tickOf loginDeadline) }) ∧
    ∀ {α ε : Type} (op : String) (lift : ε → AccessError) (d δ : Duration) (r : Except ε α) (v : World),
      (Access.bounded op d lift (pure r : Sim (Except ε α))).run [] v = .ok (r.mapError lift) v ∧
      (Access.bounded op d lift (Sim.sleep δ >>= fun _ => pure r : Sim (Except ε α))).run [] v =
        if tickOf (v.clock + δ.toNanos) ≤ tickOf (v.clock + d.toNanos) then
          .ok (r.mapError lift) { v with clock := clockAt v.clock (tickOf (v.clock + δ.toNanos)) }
        else .ok (.error (.timeout op d)) { v with clock := clockAt v.clock (tickOf (v.clock + d.toNanos)) } := by
  intro lookupDeadline loginDeadline lookupEnd sid run
  have hhangs : w.providerHangs = true := by rw [World.providerHangs, hclear, hhang]; rfl
  -- the lookup's tick is the tick of its effective deadline, so the cut compares the two ticks
  have htick : w.lookupTick = tickOf lookupDeadline := w.lookupTick_eq
  have hcut : w.lookupCut = true ↔ tickOf loginDeadline < tickOf lookupDeadline := by
    rw [World.lookupCut_iff hhangs, htick]
  obtain ⟨hdone, hcutRun⟩ := Access.signIn_of_hanging_provider state ttl hmem hclear hhang huid hcode
  refine ⟨fun hle hfit => ?_, fun hlt => hcutRun (hcut.2 hlt), fun op lift d δ r v =>
    ⟨Access.bounded_pure_top v, Access.bounded_ready_top v⟩⟩
  have hnocut : w.lookupCut = false := by
    rw [← Bool.not_eq_true, hcut]
    exact Nat.not_lt.2 hle
  rw [htick] at hdone
  exact hdone hnocut hfit

/-- A provider that hangs, a gateway timeout of 1.0005 s and a login deadline of 1.0001 s: the
two deadlines fall on one tick, the 1001st millisecond, so the lookup gives up first, being polled
first, and the sign-in opens `u-7`'s session then. -/
theorem hanging_provider_races_login_deadline_on_one_tick :
    let w := Setup.world ⟨.memory, { AccessSettings.default with
      gatewayTimeout := ⟨1, 500000, by omega⟩, loginTimeout := ⟨1, 100000, by omega⟩ }, "", .hang, .fixed "u-7", "tok"⟩
    let ttl := Duration.ofSecs 60
    let lookupDeadline := w.clock + min w.settings.gatewayTimeout.toNanos hangTime.toNanos
    let loginDeadline := w.clock + w.settings.loginTimeout.toNanos
    let lookupEnd := clockAt w.clock (tickOf lookupDeadline)
    let sid := World.sessionIdOf (w.idsIssued + 1)
    let run := (w.services.auth.completeOAuthToSession "code" "state" ttl).run [] w
    tickOf lookupDeadline = tickOf loginDeadline ∧
    monotonicOrigin + (lookupEnd + ttl.toNanos) / 1000000000 ≤ i64Max ∧
    ∃ w', run = .ok (.ok ⟨sid, "u-7"⟩) w' ∧ w'.clock = lookupEnd ∧
      w'.stores = .memory ⟨[(sid.text, ⟨⟨"u-7", w.identity.tokens⟩, lookupEnd + ttl.toNanos⟩)]⟩
        (MemoryUsers.empty.ensureExists "u-7" w.wall) :=
  ⟨by decide, by decide, (hanging_provider_races_login_deadline _ MemorySessions.empty MemoryUsers.empty "u-7"
    "code" "state" _ rfl rfl rfl rfl rfl).1 (by decide) (by decide)⟩

end Warden
