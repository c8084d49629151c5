import Warden.Proofs.Directory
import Warden.Proofs.Run

/-!
# Signing in

`AuthService.completeOAuthToSession` is followed here through every world. The sign-in runs
under the login deadline, one level below the top, so every stage is taken apart under the stack
`[w.clock + loginTimeout]` of the world it starts in.

## The stages

`complete` is cut at its join points into three stages (`complete_eq`):

1. *who* — the code exchange, the provider's answer about the access token, and, when that
   answer names no one, the token reader (`identify`). Nothing here writes to a store: the
   stage moves the clock, while the provider hangs, and counts the reader's readings.
2. *record* — the directory writes: the user is created unless it exists, and with the
   provider's information, that information is kept and an address on the super-admin list
   promotes the user (`finish`, up to the session).
3. *open* — a fresh session id, and the session saved under it (`openSession`).

Who a sign-in is for is `World.signInIdentity`, read off the world alone: the provider's user
when the provider answers at once with an id, and otherwise the token reader's. The provider's
answer is used whole or not at all: an answer without an id is no answer.

## The login deadline

The only stage that can take time in a world without store faults is the provider's, when it
hangs. Its own deadline and the hour of the hang race the login deadline, tick against tick; the
login deadline wins (`World.lookupCut`) only when its tick comes strictly before both, and then
the whole sign-in times out with nothing written.
-/

namespace Warden

namespace Access

namespace AuthService

variable {m : Type → Type} [Monad m] [MonadDeadline m]

/-- The user id of a sign-in: the provider's when its answer names a user, and otherwise the one
the token reader gives. -/
def identify (a : AuthService m) (tokens : TokenPair) : Option LoginInfo → ExceptT AccessError m String
  | some i => pure i.userId
  | none => a.fallbackUserId tokens

/-- The session of a sign-in: a fresh id, and the session saved under it. -/
def openSession (a : AuthService m) (tokens : TokenPair) (ttl : Duration) (userId : String) :
    ExceptT AccessError m CompletedLogin := do
  let sessionId ← ExceptT.lift a.backends.freshSessionId
  boundedStore "session_save" a.settings.gatewayTimeout
    (a.backends.sessions.save sessionId ⟨userId, tokens⟩ ttl)
  pure ⟨sessionId, userId⟩

/-- What a sign-in does once it knows its user: the directory writes, then the session. -/
def finish (a : AuthService m) (tokens : TokenPair) (info : Option LoginInfo) (ttl : Duration)
    (userId : String) : ExceptT AccessError m CompletedLogin := do
  boundedStore "ensure_user" a.settings.gatewayTimeout (a.backends.users.ensureExists userId)
  match info with
  | some i =>
    boundedStore "save_login_info" a.settings.gatewayTimeout (a.backends.users.saveLoginInfo i)
    if a.settings.superAdmins.contains i.email then
      let _ ← boundedStore "promote_super_admin" a.settings.gatewayTimeout
        (a.backends.users.setRole userId .superAdmin)
      a.openSession tokens ttl userId
    else a.openSession tokens ttl userId
  | none => a.openSession tokens ttl userId

/-- The sign-in sequence in its three stages. -/
theorem complete_eq (a : AuthService m) (code state : String) (ttl : Duration) :
    a.complete code state ttl = (do
      let tokens ← boundedGateway "login_by_oauth" a.settings.gatewayTimeout
        (a.backends.identity.loginByOAuth code state)
      let info ← ExceptT.lift (a.lookupLoginInfo tokens)
      let userId ← a.identify tokens info
      a.finish tokens info ttl userId) := by
  simp only [complete]
  congr 1
  funext tokens
  congr 1
  funext info
  cases info <;> rfl

end AuthService

/-- The sign-in service over the backends of the simulated world, with the uid reader wired as
`src` says. -/
def worldAuth (src : UidSource) (s : AccessSettings) : AuthService Sim := ⟨worldBackends src, s⟩

@[simp] theorem worldAuth_settings (src : UidSource) (s : AccessSettings) :
    (worldAuth src s).settings = s := rfl

end Access

theorem World.services_auth (w : World) :
    w.services.auth = Access.worldAuth w.uidSource w.settings := rfl

/-! ## Who a sign-in is for -/

/-- The user id the token reader gives for an access token, checked as a sign-in checks it: a
reader must be wired, must not fail, and must give a nonempty id. -/
def UidSource.userId (src : UidSource) (token : String) : Except AccessError String :=
  if src.wired then
    match src.read token with
    | .error e => .error (.extraction e)
    | .ok uid => if uid.isEmpty then .error (.extraction .missingUserId) else .ok uid
  else .error (.config "uid extractor not configured")

namespace World

/-- The login information the provider gives at once about the world's access token, when it
names a user. -/
def providerInfo? (w : World) : Option LoginInfo :=
  match w.faults.modeOf? .loginInfo, w.identity.reply with
  | none, .info i => if i.userId.isEmpty then none else some i
  | _, _ => none

/-- Whether the provider hangs when asked about a token: by a fault, or by its reply. -/
def providerHangs (w : World) : Bool :=
  match w.faults.modeOf? .loginInfo, w.identity.reply with
  | some .hang, _ => true
  | none, .hang => true
  | _, _ => false

/-- Whether the login deadline falls first on a gateway call that hangs from the world's instant:
its tick comes strictly before the tick of the call's own deadline and of the end of the hour. -/
def loginFirst (w : World) : Bool :=
  decide (tickOf (w.clock + w.settings.loginTimeout.toNanos) <
      tickOf (w.clock + w.settings.gatewayTimeout.toNanos)) &&
    decide (tickOf (w.clock + w.settings.loginTimeout.toNanos) < tickOf (w.clock + hangTime.toNanos))

/-- Whether the login deadline falls while the provider hangs. -/
def lookupCut (w : World) : Bool :=
  w.providerHangs && w.loginFirst

/-- The tick on which the provider gives up a question it hangs on: the gateway deadline's or the
end of the hour's, whichever comes first. -/
def lookupTick (w : World) : Nat :=
  min (tickOf (w.clock + w.settings.gatewayTimeout.toNanos)) (tickOf (w.clock + hangTime.toNanos))

/-- How long the provider keeps a sign-in waiting when the login deadline does not cut it: until
`lookupTick`, when it hangs. -/
def lookupWait (w : World) : Nat :=
  if w.providerHangs then clockAt w.clock w.lookupTick - w.clock else 0

/-- Who a sign-in is for: the provider's user, with its information, when the provider names one,
and otherwise the token reader's, with no information. -/
def signInIdentity (w : World) : Except AccessError (String × Option LoginInfo) :=
  match w.providerInfo? with
  | some i => .ok (i.userId, some i)
  | none => (w.uidSource.userId w.identity.accessToken).map fun uid => (uid, none)

/-- The world after the directory writes of a sign-in as `uid` with the provider's information
`info`: the user is created unless it exists, and, with information, the information is kept and
an address on the super-admin list promotes the user. -/
def recordSignIn (w : World) (uid : String) (info : Option LoginInfo) : World :=
  let w₁ := (w.ensureUser uid).2
  match info with
  | none => w₁
  | some i =>
    let w₂ := (w₁.saveLoginInfo i).2
    if w.settings.superAdmins.contains i.email then
      (w₂.modifyUser uid fun u => { u with role := .superAdmin }).2
    else w₂

/-- The world once a sign-in that the login deadline does not cut knows who it is for: the wait
for the provider is over, and the token reader was read once if the provider named no one and a
reader is wired. -/
def identified (w : World) : World :=
  { w with clock := w.clock + w.lookupWait,
           uidReads := w.uidReads + (if w.providerInfo?.isNone && w.uidSource.wired then 1 else 0) }

end World

/-- The in-memory directory after the writes of a sign-in as `uid`: the user is created unless it
exists, stamped `now`, and, with the provider's information `info`, the information is kept and,
for an address on the list `A`, the user is promoted, stamped `later`. -/
def MemoryUsers.signIn (d : MemoryUsers) (A : SuperAdmins) (uid : String) (info : Option LoginInfo)
    (now later : Timestamp) : MemoryUsers :=
  let d₁ := d.ensureExists uid now
  match info with
  | none => d₁
  | some i =>
    let d₂ := d₁.saveLoginInfo i
    if A.contains i.email then d₂.modify uid (fun u => { u with role := .superAdmin }) later else d₂

/-- The tokens the provider hands out for a code. -/
def IdentityFake.tokens (f : IdentityFake) : TokenPair :=
  ⟨⟨f.accessToken, 1000⟩, ⟨"refresh-token", 2000⟩, "Bearer"⟩

/-- The code exchange gives the provider's tokens for any nonempty code. -/
theorem IdentityFake.loginByOAuth_of_code (f : IdentityFake) {code : String}
    (hcode : code.isEmpty = false) : f.loginByOAuth code = .ok f.tokens := by
  rw [loginByOAuth, hcode]
  rfl

/-! ### The sign-in's directory through its views -/

namespace MemoryUsers

variable (d : MemoryUsers) (A : SuperAdmins) (uid : String) (now later : Timestamp)

theorem signIn_find?_self (info : Option LoginInfo) : ((d.signIn A uid info now later).find? uid).isSome := by
  unfold signIn
  cases info with
  | none => simp [find?_ensureExists]
  | some i =>
    dsimp only
    split
    · simp [find?_modify _ uid (fun u => { u with role := .superAdmin }) later (fun _ => rfl)]
    · simp [find?_ensureExists]

/-- Without the provider's information, the user keeps its role, or has the lowest when new. -/
theorem signIn_getRole_of_none :
    (d.signIn A uid none now later).getRole uid = .ok (((d.find? uid).map User.role).getD .user) := by
  unfold signIn
  rw [getRole_of_find? _ ((find?_ensureExists d uid now uid).trans (if_pos rfl)), entry_role]

/-- With the provider's information, an address on the list promotes the user, and otherwise the
user keeps its role, or has the lowest when new. -/
theorem signIn_getRole_of_some (i : LoginInfo) :
    (d.signIn A uid (some i) now later).getRole uid =
      .ok (if A.contains i.email then .superAdmin else ((d.find? uid).map User.role).getD .user) := by
  unfold signIn
  dsimp only
  split
  · rw [getRole_of_find? _ ((find?_modify _ uid (fun u => { u with role := .superAdmin }) later
      (fun _ => rfl) uid).trans (if_pos rfl))]
  · rw [getRole_of_find? _ ((find?_saveLoginInfo _ _ _).trans
      ((find?_ensureExists d uid now uid).trans (if_pos rfl))), entry_role]

/-- The provider's information about the user is kept. -/
theorem signIn_loginOf?_of_some {i : LoginInfo} (hi : i.userId = uid) :
    (d.signIn A uid (some i) now later).loginOf? uid = some i := by
  unfold signIn
  dsimp only
  split
  · rw [loginOf?_modify, loginOf?_saveLoginInfo, if_pos hi]
  · rw [loginOf?_saveLoginInfo, if_pos hi]

/-- Without the provider's information, no login information is written. -/
theorem signIn_logins_of_none : (d.signIn A uid none now later).logins = d.logins :=
  logins_ensureExists d uid now

/-- What a sign-in leaves in the directory for its user: a record, and, with the provider's
information about that user, the information kept and the promotion for an address on the list;
without it, no login information written and the role as it was. -/
theorem signIn_records (info : Option LoginInfo) (hinfo : ∀ i, info = some i → i.userId = uid) :
    ((d.signIn A uid info now later).find? uid).isSome ∧
      (∀ i, info = some i → (d.signIn A uid info now later).loginOf? uid = some i ∧
          (d.signIn A uid info now later).getRole uid =
            .ok (if A.contains i.email then .superAdmin else ((d.find? uid).map User.role).getD .user)) ∧
      (info = none → (d.signIn A uid info now later).logins = d.logins ∧
          (d.signIn A uid info now later).getRole uid = .ok (((d.find? uid).map User.role).getD .user)) := by
  refine ⟨signIn_find?_self d A uid now later info, ?_, ?_⟩
  · rintro i rfl
    exact ⟨signIn_loginOf?_of_some d A uid now later (hinfo i rfl), signIn_getRole_of_some d A uid now later i⟩
  · rintro rfl
    exact ⟨signIn_logins_of_none d A uid now later, signIn_getRole_of_none d A uid now later⟩

end MemoryUsers

/-- No fault is set on the code exchange or on the calls a sign-in makes to the stores. -/
def World.signInClear (w : World) : Prop :=
  w.faults.modeOf? .loginByOAuth = none ∧ w.faults.modeOf? .ensureExists = none ∧
    w.faults.modeOf? .saveLoginInfo = none ∧ w.faults.modeOf? .setRole = none ∧
    w.faults.modeOf? .sessionSave = none

namespace World

variable {w : World} {ss : MemorySessions} {us : MemoryUsers}

/-- A world without faults is clear for a sign-in. -/
theorem signInClear_of_none (h : w.faults = Faults.none) : w.signInClear := by
  rw [signInClear, h]
  exact ⟨rfl, rfl, rfl, rfl, rfl⟩

theorem recordSignIn_writesOnly (w : World) (uid : String) (info : Option LoginInfo) :
    WritesOnly w (w.recordSignIn uid info) := by
  have h₁ := ensureUser_writesOnly w uid
  unfold recordSignIn
  cases info with
  | none => exact h₁
  | some i =>
    have h₂ := h₁.trans (saveLoginInfo_writesOnly _ i)
    dsimp only
    split
    · exact h₂.trans (modifyUser_writesOnly _ _ _)
    · exact h₂

/-- In memory, the writes of a sign-in are those of `MemoryUsers.signIn`, from the world's wall
instant. -/
theorem recordSignIn_of_memory (h : w.stores = .memory ss us) (uid : String) (info : Option LoginInfo) :
    (w.recordSignIn uid info).stores = .memory ss (us.signIn w.settings.superAdmins uid info w.wall w.tick.wall) := by
  unfold recordSignIn MemoryUsers.signIn
  rw [ensureUser_of_memory h]
  cases info with
  | none => rfl
  | some i =>
    dsimp only
    rw [saveLoginInfo_of_memory rfl]
    split
    · rw [modifyUser_of_memory rfl]
    · rfl

theorem saveSession_of_memory (h : w.stores = .memory ss us) (id : SessionId) (s : Session)
    (ttl : Duration) :
    w.saveSession id s ttl = match ss.save id.text s ttl w.clock with
      | .ok ss' => (.ok (), { w with stores := .memory ss' us })
      | .error e => (.error e, w) := by
  cases hs : ss.save id.text s ttl w.clock <;> simp only [saveSession, h, hs]

/-! ### The wait for the provider -/

theorem lookupCut_of_not_hangs (h : w.providerHangs = false) : w.lookupCut = false := by
  rw [lookupCut, h, Bool.false_and]

theorem lookupWait_of_not_hangs (h : w.providerHangs = false) : w.lookupWait = 0 := by
  rw [lookupWait, if_neg (by rw [h]; decide)]

/-- A provider that hangs is cut off by the login deadline exactly when the deadline's tick comes
first. -/
theorem lookupCut_of_hangs (h : w.providerHangs = true) :
    w.lookupCut = true ↔
      tickOf (w.clock + w.settings.loginTimeout.toNanos) < tickOf (w.clock + w.settings.gatewayTimeout.toNanos) ∧
        tickOf (w.clock + w.settings.loginTimeout.toNanos) < tickOf (w.clock + hangTime.toNanos) := by
  rw [lookupCut, h, Bool.true_and, loginFirst, Bool.and_eq_true, decide_eq_true_iff, decide_eq_true_iff]

/-- The wait for a provider that hangs ends on `lookupTick`. -/
theorem clock_add_lookupWait (h : w.providerHangs = true) :
    w.clock + w.lookupWait = clockAt w.clock w.lookupTick := by
  rw [lookupWait, if_pos h, Nat.add_sub_cancel' (le_clockAt _ _)]

theorem identified_of_info {i : LoginInfo} (h : w.providerInfo? = some i) :
    w.identified = { w with clock := w.clock + w.lookupWait } := by
  rw [identified, h]
  rfl

theorem identified_of_none (h : w.providerInfo? = none) :
    w.identified = { w with clock := w.clock + w.lookupWait,
                            uidReads := w.uidReads + (if w.uidSource.wired then 1 else 0) } := by
  rw [identified, h]
  rfl

theorem signInIdentity_of_info {i : LoginInfo} (h : w.providerInfo? = some i) :
    w.signInIdentity = .ok (i.userId, some i) := by
  rw [signInIdentity, h]

/-- The information a sign-in keeps is about the user it signs in. -/
theorem signInIdentity_info {uid : String} {info : Option LoginInfo}
    (h : w.signInIdentity = .ok (uid, info)) : ∀ i, info = some i → i.userId = uid := by
  intro i hi
  subst hi
  unfold signInIdentity at h
  cases hp : w.providerInfo? with
  | some j =>
    rw [hp] at h
    cases h
    rfl
  | none =>
    rw [hp] at h
    cases hu : w.uidSource.userId w.identity.accessToken with
    | error e => rw [hu] at h; cases h
    | ok v => rw [hu] at h; cases h

theorem signInIdentity_of_none (h : w.providerInfo? = none) :
    w.signInIdentity = (w.uidSource.userId w.identity.accessToken).map fun uid => (uid, none) := by
  rw [signInIdentity, h]

end World

/-! ## The stages, one at a time -/

namespace Sim

variable {ds : List Nat} {w : World}

theorem loginInfo_of_info {i : LoginInfo} (hr : w.identity.reply = .info i) :
    loginInfo ds w = .ok (.ok i) w := by
  rw [loginInfo, bind_ok world_run]
  dsimp only
  rw [hr, if_neg (by simp)]
  rfl

theorem loginInfo_of_fail (hr : w.identity.reply = .fail) :
    loginInfo ds w = .ok (.error (.unavailable "idp down")) w := by
  rw [loginInfo, bind_ok world_run]
  dsimp only
  rw [hr, if_neg (by simp)]
  rfl

theorem loginInfo_of_hang (hr : w.identity.reply = .hang) :
    loginInfo ds w = (sleep hangTime >>= fun _ => pure (.error (.unavailable "hung"))) ds w := by
  rw [loginInfo, bind_ok world_run]
  dsimp only
  rw [if_pos hr, hr]
  rfl

end Sim

namespace Access

variable {src : UidSource} {s : AccessSettings} {ds : List Nat} {w w' : World}

theorem exchange_of_clear (code state : String) (hm : w.faults.modeOf? .loginByOAuth = none) :
    (boundedGateway "login_by_oauth" s.gatewayTimeout
        ((worldAuth src s).backends.identity.loginByOAuth code state)).run ds w =
      .ok ((w.identity.loginByOAuth code).mapError .gateway) w :=
  bounded_of_ok ((Sim.serviceCall_of_clear hm).trans (Sim.bind_ok Sim.world_run _))

/-- The provider's answer, once it is in, is used only when it names a user. -/
theorem lookup_of_info {tokens : TokenPair} {i : LoginInfo}
    (h : (boundedGateway "current_user_login_info" s.gatewayTimeout
      ((worldAuth src s).backends.identity.loginInfo tokens.access.value)).run ds w = .ok (.ok i) w') :
    ((worldAuth src s).lookupLoginInfo tokens) ds w =
      .ok (if i.userId.isEmpty then none else some i) w' := by
  rw [AuthService.lookupLoginInfo, worldAuth_settings, Sim.bind_ok h]
  rfl

/-- A failed or timed-out question to the provider is no answer. -/
theorem lookup_of_error {tokens : TokenPair} {e : AccessError}
    (h : (boundedGateway "current_user_login_info" s.gatewayTimeout
      ((worldAuth src s).backends.identity.loginInfo tokens.access.value)).run ds w = .ok (.error e) w') :
    ((worldAuth src s).lookupLoginInfo tokens) ds w = .ok none w' := by
  rw [AuthService.lookupLoginInfo, worldAuth_settings, Sim.bind_ok h]
  rfl

theorem lookup_of_fallen {tokens : TokenPair} {f : Fallen}
    (h : (boundedGateway "current_user_login_info" s.gatewayTimeout
      ((worldAuth src s).backends.identity.loginInfo tokens.access.value)).run ds w = .error f w') :
    ((worldAuth src s).lookupLoginInfo tokens) ds w = .error f w' := by
  rw [AuthService.lookupLoginInfo, worldAuth_settings, Sim.bind_fallen h]

/-- A hang under the login deadline `L`, with the call's own deadline `t` set at the same instant:
the login deadline cuts it when its tick comes strictly first, and otherwise the call waits until
the tick of its own deadline or of the end of the hour, whichever comes first. -/
theorem bounded_hang_signIn {α ε : Type} {op : String} {t L : Duration} {lift : ε → AccessError}
    {e : ε} :
    (bounded op t lift (Sim.sleep hangTime >>= fun _ => pure (.error e) : Sim (Except ε α))).run
        [w.clock + L.toNanos] w =
      if tickOf (w.clock + L.toNanos) < tickOf (w.clock + t.toNanos) ∧
          tickOf (w.clock + L.toNanos) < tickOf (w.clock + hangTime.toNanos) then
        .error ⟨0⟩ (w.afterTimer L)
      else .ok (.error (if tickOf (w.clock + t.toNanos) < tickOf (w.clock + hangTime.toNanos) then .timeout op t
          else lift e))
        { w with clock := clockAt w.clock (min (tickOf (w.clock + t.toNanos)) (tickOf (w.clock + hangTime.toNanos))) } := by
  rw [bounded_hang, List.singleton_append, firstToFall_pair]
  by_cases hG : tickOf (w.clock + t.toNanos) ≤ tickOf (w.clock + L.toNanos)
  · by_cases hH : tickOf (w.clock + t.toNanos) < tickOf (w.clock + hangTime.toNanos)
    · -- the call's own deadline falls first
      rw [if_pos hG, if_pos hH]
      dsimp only
      rw [List.length_singleton, if_pos rfl, if_neg (by omega), if_pos hH, Nat.min_eq_left (by omega)]
    · -- the hour ends first
      rw [if_pos hG, if_neg hH]
      dsimp only
      rw [if_neg (by omega), if_neg hH, Nat.min_eq_right (by omega)]
      rfl
  · by_cases hL : tickOf (w.clock + L.toNanos) < tickOf (w.clock + hangTime.toNanos)
    · -- the login deadline falls first
      rw [if_neg hG, if_pos hL]
      dsimp only
      rw [List.length_singleton, if_neg Nat.zero_ne_one, if_pos ⟨by omega, hL⟩]
      rfl
    · -- the hour ends before either deadline
      rw [if_neg hG, if_neg hL]
      dsimp only
      rw [if_neg (by omega), if_neg (by omega), Nat.min_eq_right (by omega)]
      rfl

/-- The provider, asked during a sign-in while it hangs: the login deadline cuts the sign-in
when its tick comes strictly first, and otherwise the question ends in no answer. -/
theorem lookup_of_hanging {tokens : TokenPair}
    (hcall : ∀ ds', (worldAuth src s).backends.identity.loginInfo tokens.access.value ds' w =
      (Sim.sleep hangTime >>= fun _ => pure (.error (.unavailable "hung"))) ds' w) :
    ((worldAuth src s).lookupLoginInfo tokens) [w.clock + s.loginTimeout.toNanos] w =
      if tickOf (w.clock + s.loginTimeout.toNanos) < tickOf (w.clock + s.gatewayTimeout.toNanos) ∧
          tickOf (w.clock + s.loginTimeout.toNanos) < tickOf (w.clock + hangTime.toNanos) then
        .error ⟨0⟩ (w.afterTimer s.loginTimeout)
      else .ok none { w with
        clock := clockAt w.clock (min (tickOf (w.clock + s.gatewayTimeout.toNanos)) (tickOf (w.clock + hangTime.toNanos))) } := by
  have hrun : (boundedGateway "current_user_login_info" s.gatewayTimeout
      ((worldAuth src s).backends.identity.loginInfo tokens.access.value)).run
        [w.clock + s.loginTimeout.toNanos] w =
      if tickOf (w.clock + s.loginTimeout.toNanos) < tickOf (w.clock + s.gatewayTimeout.toNanos) ∧
          tickOf (w.clock + s.loginTimeout.toNanos) < tickOf (w.clock + hangTime.toNanos) then
        .error ⟨0⟩ (w.afterTimer s.loginTimeout)
      else .ok (.error (if tickOf (w.clock + s.gatewayTimeout.toNanos) < tickOf (w.clock + hangTime.toNanos) then
          .timeout "current_user_login_info" s.gatewayTimeout else .gateway (.unavailable "hung")))
        { w with
          clock := clockAt w.clock (min (tickOf (w.clock + s.gatewayTimeout.toNanos)) (tickOf (w.clock + hangTime.toNanos))) } :=
    (bounded_congr hcall).trans bounded_hang_signIn
  split
  · exact lookup_of_fallen (by rw [hrun, if_pos ‹_›])
  · exact lookup_of_error (by rw [hrun, if_neg ‹_›])

/-- A provider that answers at once, whatever it answers, keeps no sign-in waiting. -/
theorem lookup_of_prompt {r : Option LoginInfo} (hh : w.providerHangs = false)
    (hr : r = w.providerInfo?) :
    (.ok r w : EStateM.Result Fallen World (Option LoginInfo)) =
      if w.lookupCut then .error ⟨0⟩ (w.afterTimer w.settings.loginTimeout)
      else .ok w.providerInfo? { w with clock := w.clock + w.lookupWait } := by
  rw [World.lookupCut_of_not_hangs hh, World.lookupWait_of_not_hangs hh, if_neg Bool.false_ne_true, hr]
  rfl

/-- A provider that hangs keeps a sign-in waiting until `lookupTick`, unless the login deadline
cuts it first. -/
theorem lookup_of_hangs (hh : w.providerHangs = true) (hp : w.providerInfo? = none) :
    (if tickOf (w.clock + w.settings.loginTimeout.toNanos) < tickOf (w.clock + w.settings.gatewayTimeout.toNanos) ∧
          tickOf (w.clock + w.settings.loginTimeout.toNanos) < tickOf (w.clock + hangTime.toNanos) then
        .error ⟨0⟩ (w.afterTimer w.settings.loginTimeout)
      else .ok none { w with clock := clockAt w.clock w.lookupTick } :
        EStateM.Result Fallen World (Option LoginInfo)) =
      if w.lookupCut then .error ⟨0⟩ (w.afterTimer w.settings.loginTimeout)
      else .ok w.providerInfo? { w with clock := w.clock + w.lookupWait } := by
  rw [World.clock_add_lookupWait hh, hp]
  by_cases hcut : w.lookupCut = true
  · rw [if_pos ((World.lookupCut_of_hangs hh).1 hcut), if_pos hcut]
  · rw [if_neg (mt (World.lookupCut_of_hangs hh).2 hcut), if_neg hcut]

/-- The provider, asked during a sign-in from `w`: it answers at once, or it hangs, and then the
login deadline cuts the sign-in or the question ends in no answer after `lookupWait`. -/
theorem lookup_signIn (tokens : TokenPair) :
    ((worldAuth src w.settings).lookupLoginInfo tokens) [w.clock + w.settings.loginTimeout.toNanos] w =
      if w.lookupCut then .error ⟨0⟩ (w.afterTimer w.settings.loginTimeout)
      else .ok w.providerInfo? { w with clock := w.clock + w.lookupWait } := by
  cases hm : w.faults.modeOf? .loginInfo with
  | none =>
    cases hr : w.identity.reply with
    | info i =>
      rw [lookup_of_info (bounded_of_ok ((Sim.serviceCall_of_clear hm).trans (Sim.loginInfo_of_info hr)))]
      exact lookup_of_prompt (by rw [World.providerHangs, hm, hr]) (by rw [World.providerInfo?, hm, hr])
    | fail =>
      rw [lookup_of_error (bounded_of_ok ((Sim.serviceCall_of_clear hm).trans (Sim.loginInfo_of_fail hr)))]
      exact lookup_of_prompt (by rw [World.providerHangs, hm, hr]) (by rw [World.providerInfo?, hm, hr])
    | hang =>
      rw [lookup_of_hanging fun _ => (Sim.serviceCall_of_clear hm).trans (Sim.loginInfo_of_hang hr)]
      exact lookup_of_hangs (by rw [World.providerHangs, hm, hr]) (by rw [World.providerInfo?, hm, hr])
  | some m =>
    cases m with
    | hang =>
      rw [lookup_of_hanging fun _ => Sim.serviceCall_of_hang hm]
      exact lookup_of_hangs (by rw [World.providerHangs, hm]) (by rw [World.providerInfo?, hm])
    | _ =>
      rw [lookup_of_error (bounded_of_ok (Sim.serviceCall_of_fault hm (by decide)))]
      exact lookup_of_prompt (by rw [World.providerHangs, hm]) (by rw [World.providerInfo?, hm])

theorem identify_of_info (tokens : TokenPair) (i : LoginInfo) :
    ((worldAuth src s).identify tokens (some i)).run ds w = .ok (.ok i.userId) w := rfl

/-- Without the provider's answer, the token reader is asked once, when one is wired. -/
theorem identify_of_none (tokens : TokenPair) (hsrc : w.uidSource = src) :
    ((worldAuth src s).identify tokens none).run ds w =
      .ok (src.userId tokens.access.value)
        { w with uidReads := w.uidReads + (if src.wired then 1 else 0) } := by
  subst hsrc
  have hreader : (worldAuth w.uidSource s).backends.uidReader =
      if w.uidSource.wired then some Sim.readUid else none := rfl
  rw [AuthService.identify, AuthService.fallbackUserId, hreader, UidSource.userId]
  cases hw : w.uidSource.wired
  · rfl
  · rw [if_pos rfl, if_pos rfl]
    dsimp only
    rw [Sim.run_bind_ok (Sim.run_exceptLift (Sim.readUid_run _))]
    cases w.uidSource.read tokens.access.value with
    | error e => rfl
    | ok uid => by_cases hu : uid.isEmpty <;> simp [hu] <;> rfl

/-- During a sign-in whose provider named no one, the token reader decides, once the wait for the
provider is over. -/
theorem identify_signIn (hinfo : w.providerInfo? = none) :
    ((worldAuth w.uidSource s).identify w.identity.tokens none).run ds
        { w with clock := w.clock + w.lookupWait } =
      .ok (w.uidSource.userId w.identity.accessToken) w.identified := by
  rw [World.identified_of_none hinfo]
  exact identify_of_none _ (by rfl)

/-! ### The directory writes and the session -/

variable {uid : String}

theorem ensure_of_clear (hm : w.faults.modeOf? .ensureExists = none) :
    (boundedStore "ensure_user" s.gatewayTimeout ((worldAuth src s).backends.users.ensureExists uid)).run
      ds w = .ok (.ok ()) (w.ensureUser uid).2 :=
  bounded_of_ok ((Sim.storeCall_of_clear hm).trans (Sim.ensureUser_run uid))

theorem saveLoginInfo_of_clear {i : LoginInfo} (hm : w.faults.modeOf? .saveLoginInfo = none) :
    (boundedStore "save_login_info" s.gatewayTimeout
      ((worldAuth src s).backends.users.saveLoginInfo i)).run ds w = .ok (.ok ()) (w.saveLoginInfo i).2 :=
  bounded_of_ok ((Sim.storeCall_of_clear hm).trans (Sim.saveLoginInfo_run i))

theorem setRole_of_clear {r : Role} (hm : w.faults.modeOf? .setRole = none) :
    (boundedStore "promote_super_admin" s.gatewayTimeout
      ((worldAuth src s).backends.users.setRole uid r)).run ds w =
      .ok ((w.modifyUser uid fun u => { u with role := r }).1.mapError .storage)
        (w.modifyUser uid fun u => { u with role := r }).2 :=
  bounded_of_ok ((Sim.storeCall_of_clear hm).trans (Sim.modifyUser_run uid _))

theorem freshSessionId_of (src : UidSource) (s : AccessSettings) :
    (worldAuth src s).backends.freshSessionId ds w =
      .ok (World.sessionIdOf (w.idsIssued + 1)) { w with idsIssued := w.idsIssued + 1 } := rfl

/-- A session opens under the next id of the world, for the lifetime asked, when the store can
hold its expiry. -/
theorem openSession_of_clear {tokens : TokenPair} {ttl : Duration}
    (hm : w.faults.modeOf? .sessionSave = none) :
    ((worldAuth src s).openSession tokens ttl uid).run ds w =
      let sid := World.sessionIdOf (w.idsIssued + 1)
      let saved := ({ w with idsIssued := w.idsIssued + 1 } : World).saveSession sid ⟨uid, tokens⟩ ttl
      .ok ((saved.1.mapError .storage).map fun _ => ⟨sid, uid⟩) saved.2 := by
  rw [AuthService.openSession, Sim.run_bind_ok (Sim.run_exceptLift (freshSessionId_of src s))]
  dsimp only
  have hsave : (boundedStore "session_save" (worldAuth src s).settings.gatewayTimeout
      ((worldAuth src s).backends.sessions.save (World.sessionIdOf (w.idsIssued + 1)) ⟨uid, tokens⟩ ttl)).run
        ds { w with idsIssued := w.idsIssued + 1 } =
      .ok ((({ w with idsIssued := w.idsIssued + 1 } : World).saveSession (World.sessionIdOf (w.idsIssued + 1))
          ⟨uid, tokens⟩ ttl).1.mapError .storage)
        (({ w with idsIssued := w.idsIssued + 1 } : World).saveSession (World.sessionIdOf (w.idsIssued + 1))
          ⟨uid, tokens⟩ ttl).2 :=
    bounded_of_ok ((Sim.storeCall_of_clear
      (show ({ w with idsIssued := w.idsIssued + 1 } : World).faults.modeOf? .sessionSave = none from hm)).trans
      (Sim.saveSession_run _ _ _))
  revert hsave
  cases (({ w with idsIssued := w.idsIssued + 1 } : World).saveSession (World.sessionIdOf (w.idsIssued + 1))
      ⟨uid, tokens⟩ ttl).1 with
  | ok u =>
    intro hsave
    rw [Sim.run_bind_ok hsave]
    rfl
  | error e =>
    intro hsave
    rw [Sim.run_bind_error hsave]
    rfl

/-! ### The whole sign-in -/

section Clear

variable {ss : MemorySessions} {us : MemoryUsers} {tokens : TokenPair} {ttl : Duration}

/-- In memory and without store faults, the directory writes all succeed, and the session opens
in the world they leave. -/
theorem finish_of_clear (hmem : w.stores = .memory ss us) (hclear : w.signInClear)
    (info : Option LoginInfo) :
    ((worldAuth src w.settings).finish tokens info ttl uid).run ds w =
      ((worldAuth src w.settings).openSession tokens ttl uid).run ds (w.recordSignIn uid info) := by
  obtain ⟨-, hensure, hsave, hrole, -⟩ := hclear
  have hw₁ := World.ensureUser_writesOnly w uid
  cases info with
  | none => rw [AuthService.finish, worldAuth_settings, Sim.run_bind_ok (ensure_of_clear hensure)]; rfl
  | some i =>
    have hw₂ := hw₁.trans (World.saveLoginInfo_writesOnly _ i)
    rw [AuthService.finish, worldAuth_settings, Sim.run_bind_ok (ensure_of_clear hensure),
      Sim.run_bind_ok (saveLoginInfo_of_clear (by rw [hw₁.faults]; exact hsave))]
    by_cases hA : w.settings.superAdmins.contains i.email
    · -- the promotion, which in memory always succeeds
      have hmem₁ : (w.ensureUser uid).2.stores = .memory ss (us.ensureExists uid w.wall) := by
        rw [World.ensureUser_of_memory hmem uid]
      have hok : (((w.ensureUser uid).2.saveLoginInfo i).2.modifyUser uid
          fun u => { u with role := .superAdmin }).1 = .ok () := by
        rw [World.modifyUser_of_memory (by rw [World.saveLoginInfo_of_memory hmem₁])]
      rw [if_pos hA, Sim.run_bind_ok ((setRole_of_clear (by rw [hw₂.faults]; exact hrole)).trans
        (by rw [hok]; rfl))]
      unfold World.recordSignIn
      dsimp only
      rw [if_pos hA]
    · rw [if_neg hA]
      unfold World.recordSignIn
      dsimp only
      rw [if_neg hA]

/-- In memory, a session opens under the next id with its expiry, unless the monotonic clock
cannot hold that expiry. -/
theorem openSession_of_memory {tokens : TokenPair} {ttl : Duration} (hmem : w.stores = .memory ss us)
    (hm : w.faults.modeOf? .sessionSave = none) :
    ((worldAuth src s).openSession tokens ttl uid).run ds w =
      let sid := World.sessionIdOf (w.idsIssued + 1)
      match MemorySessions.expiry? w.clock ttl with
      | some at_ =>
        .ok (.ok ⟨sid, uid⟩)
          { w with idsIssued := w.idsIssued + 1,
                   stores := .memory ⟨(sid.text, ⟨⟨uid, tokens⟩, at_⟩) :: (ss.erase sid.text).entries⟩ us }
      | none => .ok (.error (.storage (ttlOutOfRange ttl))) { w with idsIssued := w.idsIssued + 1 } := by
  rw [openSession_of_clear hm]
  dsimp only
  rw [World.saveSession_of_memory (show ({ w with idsIssued := w.idsIssued + 1 } : World).stores =
    .memory ss us from hmem)]
  unfold MemorySessions.save
  cases MemorySessions.expiry? w.clock ttl <;> rfl

/-- In memory and without store faults, a sign-in with an accepted code is cut by the login
deadline while the provider hangs, or fails as `signInIdentity` says, or opens its session once
the directory writes are done. -/
theorem complete_of_clear {code state : String} (hmem : w.stores = .memory ss us)
    (hclear : w.signInClear) (hcode : code.isEmpty = false) :
    ((worldAuth w.uidSource w.settings).complete code state ttl).run
        [w.clock + w.settings.loginTimeout.toNanos] w =
      if w.lookupCut then .error ⟨0⟩ (w.afterTimer w.settings.loginTimeout)
      else match w.signInIdentity with
        | .error e => .ok (.error e) w.identified
        | .ok (uid, info) => ((worldAuth w.uidSource w.settings).openSession w.identity.tokens ttl uid).run
            [w.clock + w.settings.loginTimeout.toNanos] (w.identified.recordSignIn uid info) := by
  have hexchange : (boundedGateway "login_by_oauth" w.settings.gatewayTimeout
      ((worldAuth w.uidSource w.settings).backends.identity.loginByOAuth code state)).run
        [w.clock + w.settings.loginTimeout.toNanos] w = .ok (.ok w.identity.tokens) w := by
    rw [exchange_of_clear code state hclear.1, IdentityFake.loginByOAuth_of_code _ hcode]
    rfl
  rw [AuthService.complete_eq, worldAuth_settings, Sim.run_bind_ok hexchange]
  by_cases hcut : w.lookupCut
  · rw [if_pos hcut]
    exact Sim.run_bind_fallen (Sim.run_exceptLift_fallen (by rw [lookup_signIn, if_pos hcut])) _
  · rw [if_neg hcut, Sim.run_bind_ok (Sim.run_exceptLift (by rw [lookup_signIn, if_neg hcut]))]
    cases hinfo : w.providerInfo? with
    | some i =>
      -- the provider named the user: its id, and its information kept
      rw [World.signInIdentity_of_info hinfo, ← World.identified_of_info hinfo,
        Sim.run_bind_ok (identify_of_info _ i)]
      have hmem₁ : w.identified.stores = .memory ss us := hmem
      exact finish_of_clear hmem₁ hclear (some i)
    | none =>
      -- no answer: the token reader decides
      rw [World.signInIdentity_of_none hinfo]
      cases hu : w.uidSource.userId w.identity.accessToken with
      | error e =>
        rw [Sim.run_bind_error ((identify_signIn hinfo).trans (by rw [hu]))]
        rfl
      | ok uid =>
        rw [Sim.run_bind_ok ((identify_signIn hinfo).trans (by rw [hu]))]
        have hmem₁ : w.identified.stores = .memory ss us := hmem
        exact finish_of_clear hmem₁ hclear none

/-- The sign-in answers what its sequence answers, when the login deadline does not fall. -/
theorem completeOAuth_of_done {a : AuthService Sim} {code state : String} {ttl : Duration}
    {r : Except AccessError CompletedLogin}
    (h : (a.complete code state ttl).run [w.clock + a.settings.loginTimeout.toNanos] w = .ok r w') :
    (a.completeOAuthToSession code state ttl).run [] w = .ok r w' := by
  have h' : (a.complete code state ttl).run ([] ++ [w.clock + a.settings.loginTimeout.toNanos]) w =
      .ok r w' := h
  rw [AuthService.completeOAuthToSession, Sim.run_bind_ok (Sim.run_exceptLift (Sim.within_of_ok h'))]
  rfl

/-- When the login deadline falls, the sign-in times out, in the world it was cut in. -/
theorem completeOAuth_of_cut {a : AuthService Sim} {code state : String} {ttl : Duration}
    (h : (a.complete code state ttl).run [w.clock + a.settings.loginTimeout.toNanos] w = .error ⟨0⟩ w') :
    (a.completeOAuthToSession code state ttl).run [] w =
      .ok (.error (.timeout "complete_oauth" a.settings.loginTimeout)) w' := by
  have h' : (a.complete code state ttl).run ([] ++ [w.clock + a.settings.loginTimeout.toNanos]) w =
      .error ⟨([] : List Nat).length⟩ w' := h
  rw [AuthService.completeOAuthToSession, Sim.run_bind_ok (Sim.run_exceptLift (Sim.within_of_own h'))]
  rfl

/-- In memory and without store faults, a sign-in that knows its user `uid` records it and ends
with the session of `openSession_of_memory`, in the world the directory writes leave. -/
theorem complete_of_identity {code state : String} {uid : String} {info : Option LoginInfo}
    (hmem : w.stores = .memory ss us) (hclear : w.signInClear) (hcode : code.isEmpty = false)
    (hcut : w.lookupCut = false) (hid : w.signInIdentity = .ok (uid, info)) :
    ((worldAuth w.uidSource w.settings).complete code state ttl).run
        [w.clock + w.settings.loginTimeout.toNanos] w =
      let W := w.identified.recordSignIn uid info
      let sid := World.sessionIdOf (w.idsIssued + 1)
      let us' := us.signIn w.settings.superAdmins uid info w.wall w.tick.wall
      match MemorySessions.expiry? W.clock ttl with
      | some at_ =>
        .ok (.ok ⟨sid, uid⟩)
          { W with idsIssued := W.idsIssued + 1,
                   stores := .memory ⟨(sid.text, ⟨⟨uid, w.identity.tokens⟩, at_⟩) :: (ss.erase sid.text).entries⟩ us' }
      | none => .ok (.error (.storage (ttlOutOfRange ttl))) { W with idsIssued := W.idsIssued + 1 } := by
  have hW := World.recordSignIn_writesOnly w.identified uid info
  have hmem₁ : w.identified.stores = .memory ss us := hmem
  have hWmem : (w.identified.recordSignIn uid info).stores =
      .memory ss (us.signIn w.settings.superAdmins uid info w.wall w.tick.wall) :=
    World.recordSignIn_of_memory hmem₁ uid info
  have hids : (w.identified.recordSignIn uid info).idsIssued = w.idsIssued := hW.idsIssued
  rw [complete_of_clear hmem hclear hcode, if_neg (by simp [hcut]), hid]
  dsimp only
  rw [openSession_of_memory hWmem (by rw [hW.faults]; exact hclear.2.2.2.2), hids]

end Clear

/-! ## Who a sign-in is for, and what it writes -/

/-- **Who a sign-in is for, and what it writes.** In memory, without store faults, and with a
code the provider accepts, a sign-in is cut by the login deadline only while the provider hangs,
and then times out with nothing written. Otherwise it is for `signInIdentity`: the provider's
user when the provider names one, and else the token reader's, which is asked exactly then,
once, when one is wired. A failure to tell who it is leaves the stores as they were. With the
provider's user, its information is kept and an address on the super-admin list promotes it;
with the reader's, no login information is written and no one is promoted; either way the user
has a record, with its role kept or the lowest when new. The session is saved under the next
session id with the exchanged tokens and its expiry, unless the clock cannot hold the expiry. -/
theorem signIn_resolves_user (w : World) (ss : MemorySessions) (us : MemoryUsers) (code state : String)
    (ttl : Duration) (hmem : w.stores = .memory ss us) (hclear : w.signInClear)
    (hcode : code.isEmpty = false) :
    let run := (w.services.auth.completeOAuthToSession code state ttl).run [] w
    (w.lookupCut = true →
      run = .ok (.error (.timeout "complete_oauth" w.settings.loginTimeout))
        (w.afterTimer w.settings.loginTimeout)) ∧
    (w.lookupCut = false → ∃ r w', run = .ok r w' ∧
      w'.clock = w.clock + w.lookupWait ∧
      w'.uidReads = w.uidReads + (if w.providerInfo?.isNone && w.uidSource.wired then 1 else 0) ∧
      match w.signInIdentity with
      | .error e => r = .error e ∧ w'.stores = w.stores
      | .ok (uid, info) =>
        ∃ ss' us', w'.stores = .memory ss' us' ∧ (us'.find? uid).isSome ∧
          (∀ i, info = some i → us'.loginOf? uid = some i ∧
            us'.getRole uid = .ok (if w.settings.superAdmins.contains i.email then .superAdmin
              else ((us.find? uid).map User.role).getD .user)) ∧
          (info = none → us'.logins = us.logins ∧
            us'.getRole uid = .ok (((us.find? uid).map User.role).getD .user)) ∧
          ∃ tokens, w.identity.loginByOAuth code = .ok tokens ∧
            match MemorySessions.expiry? w'.clock ttl with
            | some at_ => r = .ok ⟨World.sessionIdOf (w.idsIssued + 1), uid⟩ ∧
                ss'.entries.lookup (World.sessionIdOf (w.idsIssued + 1)).text = some ⟨⟨uid, tokens⟩, at_⟩
            | none => r = .error (.storage (ttlOutOfRange ttl)) ∧ ss' = ss) := by
  intro run
  refine ⟨fun hcut => ?_, fun hcut => ?_⟩
  · exact completeOAuth_of_cut (by
      rw [World.services_auth, worldAuth_settings, complete_of_clear hmem hclear hcode, if_pos hcut])
  cases hid : w.signInIdentity with
  | error e =>
    refine ⟨.error e, w.identified, completeOAuth_of_done ?_, rfl, rfl, rfl, rfl⟩
    rw [World.services_auth, worldAuth_settings, complete_of_clear hmem hclear hcode,
      if_neg (by simp [hcut]), hid]
  | ok who =>
    obtain ⟨uid, info⟩ := who
    have hW := World.recordSignIn_writesOnly w.identified uid info
    have hmem₁ : w.identified.stores = .memory ss us := hmem
    have hWmem : (w.identified.recordSignIn uid info).stores =
        .memory ss (us.signIn w.settings.superAdmins uid info w.wall w.tick.wall) :=
      World.recordSignIn_of_memory hmem₁ uid info
    have hrecords := MemoryUsers.signIn_records us w.settings.superAdmins uid w.wall w.tick.wall info
      (World.signInIdentity_info hid)
    cases hexp : MemorySessions.expiry? (w.identified.recordSignIn uid info).clock ttl with
    | none =>
      -- the store cannot hold the expiry: the directory writes stay, and no session is saved
      refine ⟨.error (.storage (ttlOutOfRange ttl)),
        { w.identified.recordSignIn uid info with
            idsIssued := (w.identified.recordSignIn uid info).idsIssued + 1 }, ?_, hW.clock, hW.uidReads,
        ss, _, hWmem, hrecords.1, hrecords.2.1, hrecords.2.2, w.identity.tokens, w.identity.loginByOAuth_of_code hcode, ?_⟩
      · exact completeOAuth_of_done (by
          rw [World.services_auth, worldAuth_settings, complete_of_identity hmem hclear hcode hcut hid]
          dsimp only
          rw [hexp])
      · dsimp only
        rw [hexp]
        exact ⟨rfl, rfl⟩
    | some at_ =>
      refine ⟨.ok ⟨World.sessionIdOf (w.idsIssued + 1), uid⟩,
        { w.identified.recordSignIn uid info with
            idsIssued := (w.identified.recordSignIn uid info).idsIssued + 1,
            stores := .memory ⟨((World.sessionIdOf (w.idsIssued + 1)).text,
                ⟨⟨uid, w.identity.tokens⟩, at_⟩) :: (ss.erase (World.sessionIdOf (w.idsIssued + 1)).text).entries⟩
              (us.signIn w.settings.superAdmins uid info w.wall w.tick.wall) }, ?_, hW.clock, hW.uidReads,
        _, _, rfl, hrecords.1, hrecords.2.1, hrecords.2.2, w.identity.tokens, w.identity.loginByOAuth_of_code hcode, ?_⟩
      · exact completeOAuth_of_done (by
          rw [World.services_auth, worldAuth_settings, complete_of_identity hmem hclear hcode hcut hid]
          dsimp only
          rw [hexp])
      · dsimp only
        rw [hexp]
        exact ⟨rfl, by simp⟩

/-- A first sign-in into an empty memory world with the default settings, whose provider names
`u-1`. -/
theorem signIn_resolves_user_at_start :
    let w := Setup.world ⟨.memory, AccessSettings.default, "", IdentityFake.defaultReply, .claims, "tok"⟩
    let ss := MemorySessions.empty
    let us := MemoryUsers.empty
    let ttl := Duration.ofSecs 60
    w.stores = .memory ss us ∧ w.signInClear ∧ "code".isEmpty = false ∧
    let run := (w.services.auth.completeOAuthToSession "code" "state" ttl).run [] w
    (w.lookupCut = true →
      run = .ok (.error (.timeout "complete_oauth" w.settings.loginTimeout))
        (w.afterTimer w.settings.loginTimeout)) ∧
    (w.lookupCut = false → ∃ r w', run = .ok r w' ∧
      w'.clock = w.clock + w.lookupWait ∧
      w'.uidReads = w.uidReads + (if w.providerInfo?.isNone && w.uidSource.wired then 1 else 0) ∧
      match w.signInIdentity with
      | .error e => r = .error e ∧ w'.stores = w.stores
      | .ok (uid, info) =>
        ∃ ss' us', w'.stores = .memory ss' us' ∧ (us'.find? uid).isSome ∧
          (∀ i, info = some i → us'.loginOf? uid = some i ∧
            us'.getRole uid = .ok (if w.settings.superAdmins.contains i.email then .superAdmin
              else ((us.find? uid).map User.role).getD .user)) ∧
          (info = none → us'.logins = us.logins ∧
            us'.getRole uid = .ok (((us.find? uid).map User.role).getD .user)) ∧
          ∃ tokens, w.identity.loginByOAuth "code" = .ok tokens ∧
            match MemorySessions.expiry? w'.clock ttl with
            | some at_ => r = .ok ⟨World.sessionIdOf (w.idsIssued + 1), uid⟩ ∧
                ss'.entries.lookup (World.sessionIdOf (w.idsIssued + 1)).text = some ⟨⟨uid, tokens⟩, at_⟩
            | none => r = .error (.storage (ttlOutOfRange ttl)) ∧ ss' = ss) :=
  ⟨rfl, ⟨rfl, rfl, rfl, rfl, rfl⟩, by decide,
    signIn_resolves_user _ _ _ _ _ _ rfl ⟨rfl, rfl, rfl, rfl, rfl⟩ (by decide)⟩
end Access

end Warden
