import Warden.Proofs.SignIn

/-!
# What a failed sign-in leaves

A sign-in writes to the directory before it saves its session, and it undoes nothing when a later
step fails. `AuthService.completeOAuthToSession` is followed here through every way it can fail,
in every world: either store layout, any injected faults, any deadlines.

## What is kept

A failed sign-in never changes the session store: the session is its last write, and a save that
fails writes nothing. The directory keeps the writes made before the failure, in their order
(`World.recordPrefixes`): none when the sign-in fails before it knows its user (the code
exchange, the token reader, or the login deadline before the lookup of the login information
resolves, while the exchange or the provider hangs), and all of them
when the failure is the session save's own, once a session id has been drawn. A directory write
that fails, or hangs past a deadline, keeps the writes before it.

## How the proof goes

Each stage is described by `Sim.Ends`: what its success leaves, and what any way to stop short
leaves. The stages are chained with `Sim.ends_bind`. A store call of the sign-in fails only with
an error raised once the sign-in knows its user, and leaves the stores as they were
(`signInStore_ends`); the login deadline's cut becomes a timeout at the top
(`completeOAuth_ends`).
-/

namespace Warden

/-- The session store of a world's stores. -/
def Stores.sessions : Stores → MemorySessions ⊕ DurableSessions
  | .memory ss _ => .inl ss
  | .durable ss _ _ => .inr ss

/-- Whether a sign-in raises the error before any directory write: the code exchange failed or
timed out, or no user id was found (no token reader wired, or one that fails or gives none). -/
def AccessError.beforeDirectory : AccessError → Bool
  | .gateway _ | .config _ | .extraction _ => true
  | .timeout op _ => op == "login_by_oauth"
  | _ => false

namespace World

/-- Whether the code exchange hangs: only an injected fault makes it. -/
def exchangeHangs (w : World) : Bool :=
  w.faults.modeOf? .loginByOAuth == some .hang

/-- Whether the login deadline falls before the lookup of the login information resolves: while
the code exchange hangs, or while the provider hangs on the lookup. Both calls start at the
sign-in's own instant, since nothing before them takes time. -/
def cutBeforeLookup (w : World) : Bool :=
  (w.exchangeHangs || w.providerHangs) && w.loginFirst

/-- The stores after each prefix of the directory writes of a sign-in as `uid` with the
provider's information `info`, from none of them to all of them (`recordSignIn`). -/
def recordPrefixes (w : World) (uid : String) (info : Option LoginInfo) : List Stores :=
  let w₁ := (w.ensureUser uid).2
  w.stores :: w₁.stores :: match info with
    | none => []
    | some i =>
      let w₂ := (w₁.saveLoginInfo i).2
      w₂.stores :: if w.settings.superAdmins.contains i.email then
        [(w₂.modifyUser uid fun u => { u with role := .superAdmin }).2.stores] else []

/-- What a sign-in from `w` that stopped short with the error `e?` (none when a deadline cut it)
may have left in `w'`: nothing, when the error comes before the directory, when the login
deadline fell before the lookup resolved, or when no user could be found; otherwise a prefix of
its directory writes, all of them once a session id was drawn. -/
def FailedSignIn (w : World) (e? : Option AccessError) (w' : World) : Prop :=
  (∀ e, e? = some e → e.beforeDirectory = true → w'.stores = w.stores) ∧
  (w.cutBeforeLookup = true → w'.stores = w.stores) ∧
  match w.signInIdentity with
  | .error _ => w'.stores = w.stores
  | .ok (uid, info) => w'.stores ∈ w.recordPrefixes uid info ∧
    (w'.idsIssued = w.idsIssued ∨
      w'.idsIssued = w.idsIssued + 1 ∧ w'.stores = (w.recordSignIn uid info).stores)

/-! ## The directory writes -/

variable {w w₁ : World} {uid : String} {info : Option LoginInfo}

theorem ensureUser_sessions (w : World) (id : String) :
    (w.ensureUser id).2.stores.sessions = w.stores.sessions := by
  unfold ensureUser
  cases w.stores <;> rfl

theorem saveLoginInfo_sessions (w : World) (i : LoginInfo) :
    (w.saveLoginInfo i).2.stores.sessions = w.stores.sessions := by
  unfold saveLoginInfo
  cases w.stores <;> rfl

theorem modifyUser_sessions (w : World) (id : String) (f : User → User) :
    (w.modifyUser id f).2.stores.sessions = w.stores.sessions := by
  unfold modifyUser
  cases h : w.stores with
  | memory ss us => rfl
  | durable ss us sep =>
    dsimp only
    cases us.modify id f w.wall with
    | ok us' => rfl
    | error e => exact congrArg Stores.sessions h

/-- A save that fails writes nothing. -/
theorem saveSession_stores_of_error {id : SessionId} {s : Session} {ttl : Duration} {e : StoreError}
    (h : (w.saveSession id s ttl).1 = .error e) : (w.saveSession id s ttl).2.stores = w.stores := by
  revert h
  unfold saveSession
  split
  · split <;> intro h
    · cases h
    · rfl
  · split <;> intro h
    · cases h
    · rfl

/-- A change of a user that fails writes nothing. -/
theorem modifyUser_stores_of_error {id : String} {f : User → User} {e : StoreError}
    (h : (w.modifyUser id f).1 = .error e) : (w.modifyUser id f).2.stores = w.stores := by
  revert h
  unfold modifyUser
  split
  · intro h
    cases h
  · split <;> intro h
    · cases h
    · rfl

/-! ### The writes read only the stores and the wall clock -/

theorem ensureUser_congr (hs : w₁.stores = w.stores) (hw : w₁.wall = w.wall) (id : String) :
    (w₁.ensureUser id).2.stores = (w.ensureUser id).2.stores ∧
      (w₁.ensureUser id).2.wall = (w.ensureUser id).2.wall := by
  unfold ensureUser tick
  rw [hs, hw]
  cases w.stores <;> exact ⟨rfl, rfl⟩

theorem saveLoginInfo_congr (hs : w₁.stores = w.stores) (hw : w₁.wall = w.wall) (i : LoginInfo) :
    (w₁.saveLoginInfo i).2.stores = (w.saveLoginInfo i).2.stores ∧
      (w₁.saveLoginInfo i).2.wall = (w.saveLoginInfo i).2.wall := by
  unfold saveLoginInfo
  rw [hs]
  cases w.stores <;> exact ⟨rfl, hw⟩

theorem modifyUser_congr (hs : w₁.stores = w.stores) (hw : w₁.wall = w.wall) (id : String)
    (f : User → User) : (w₁.modifyUser id f).2.stores = (w.modifyUser id f).2.stores := by
  unfold modifyUser tick
  rw [hs, hw]
  cases w.stores with
  | memory ss us => rfl
  | durable ss us sep => dsimp only; cases us.modify id f w.wall <;> rfl

theorem recordPrefixes_congr (hs : w₁.stores = w.stores) (hw : w₁.wall = w.wall)
    (hA : w₁.settings = w.settings) (uid : String) (info : Option LoginInfo) :
    w₁.recordPrefixes uid info = w.recordPrefixes uid info := by
  obtain ⟨hs₁, hw₁⟩ := ensureUser_congr hs hw uid
  dsimp only [recordPrefixes]
  rw [hs, hs₁, hA]
  cases info with
  | none => rfl
  | some i =>
    obtain ⟨hs₂, hw₂⟩ := saveLoginInfo_congr hs₁ hw₁ i
    dsimp only
    rw [hs₂, modifyUser_congr hs₂ hw₂]

theorem recordSignIn_congr (hs : w₁.stores = w.stores) (hw : w₁.wall = w.wall)
    (hA : w₁.settings = w.settings) (uid : String) (info : Option LoginInfo) :
    (w₁.recordSignIn uid info).stores = (w.recordSignIn uid info).stores := by
  obtain ⟨hs₁, hw₁⟩ := ensureUser_congr hs hw uid
  dsimp only [recordSignIn]
  rw [hA]
  cases info with
  | none => exact hs₁
  | some i =>
    obtain ⟨hs₂, hw₂⟩ := saveLoginInfo_congr hs₁ hw₁ i
    dsimp only
    split
    · exact modifyUser_congr hs₂ hw₂ _ _
    · exact hs₂

/-! ### The prefixes -/

theorem stores_mem_recordPrefixes (w : World) (uid : String) (info : Option LoginInfo) :
    w.stores ∈ w.recordPrefixes uid info :=
  List.mem_cons_self

theorem recordSignIn_mem_recordPrefixes (w : World) (uid : String) (info : Option LoginInfo) :
    (w.recordSignIn uid info).stores ∈ w.recordPrefixes uid info := by
  dsimp only [recordSignIn, recordPrefixes]
  cases info with
  | none => exact List.mem_cons_of_mem _ List.mem_cons_self
  | some i =>
    dsimp only
    refine List.mem_cons_of_mem _ (List.mem_cons_of_mem _ ?_)
    split
    · exact List.mem_cons_of_mem _ List.mem_cons_self
    · exact List.mem_cons_self

/-- No directory write touches the session store. -/
theorem sessions_of_mem_recordPrefixes {st : Stores} (h : st ∈ w.recordPrefixes uid info) :
    st.sessions = w.stores.sessions := by
  have h₁ := ensureUser_sessions w uid
  dsimp only [recordPrefixes] at h
  rcases List.mem_cons.mp h with rfl | h
  · rfl
  rcases List.mem_cons.mp h with rfl | h
  · exact h₁
  cases info with
  | none => cases h
  | some i =>
    have h₂ := (saveLoginInfo_sessions _ i).trans h₁
    dsimp only at h
    rcases List.mem_cons.mp h with rfl | h
    · exact h₂
    split at h
    · rcases List.mem_singleton.mp h with rfl
      exact (modifyUser_sessions _ _ _).trans h₂
    · cases h

/-! ### What a failure may leave -/

theorem failedSignIn_of_unchanged {e? : Option AccessError} {w' : World} (hs : w'.stores = w.stores)
    (hi : w'.idsIssued = w.idsIssued) : w.FailedSignIn e? w' := by
  refine ⟨fun _ _ _ => hs, fun _ => hs, ?_⟩
  split
  · exact hs
  · exact ⟨hs ▸ stores_mem_recordPrefixes _ _ _, .inl hi⟩

/-- A sign-in whose code exchange and lookup both answered was not cut before the lookup
resolved. -/
theorem cutBeforeLookup_of_passed (hx : w.exchangeHangs = false) (hcut : w.lookupCut = false) :
    w.cutBeforeLookup = false := by
  rw [cutBeforeLookup, hx, Bool.false_or]
  exact hcut

/-- A failure once the sign-in knows who it is for, in the world the provider's wait leaves. -/
theorem failedSignIn_of_identified {e? : Option AccessError} {w' : World} (hcut : w.cutBeforeLookup = false)
    (hid : w.signInIdentity = .ok (uid, info))
    (h : (∀ e, e? = some e → e.beforeDirectory = false) ∧
      w'.stores ∈ w.identified.recordPrefixes uid info ∧
      (w'.idsIssued = w.identified.idsIssued ∨ w'.idsIssued = w.identified.idsIssued + 1 ∧
        w'.stores = (w.identified.recordSignIn uid info).stores)) :
    w.FailedSignIn e? w' := by
  obtain ⟨hlate, hmem, hids⟩ := h
  refine ⟨fun e he hb => absurd hb (by rw [hlate e he]; decide), fun h => absurd h (by rw [hcut]; decide), ?_⟩
  have hpre : w.identified.recordPrefixes uid info = w.recordPrefixes uid info :=
    recordPrefixes_congr (by rfl) (by rfl) (by rfl) uid info
  have hall : (w.identified.recordSignIn uid info).stores = (w.recordSignIn uid info).stores :=
    recordSignIn_congr (by rfl) (by rfl) (by rfl) uid info
  rw [hid]
  rw [hpre] at hmem
  rw [hall] at hids
  exact ⟨hmem, hids⟩

/-- The login deadline's timeout names the whole sign-in, which is not an error before the
directory. -/
theorem failedSignIn_of_timeout {w' : World} (t : Duration) (h : w.FailedSignIn none w') :
    w.FailedSignIn (some (.timeout "complete_oauth" t)) w' :=
  ⟨fun e he hb => by cases he; simp [AccessError.beforeDirectory] at hb, h.2.1, h.2.2⟩

end World

/-- The tokens of a code exchange are the provider's. -/
theorem IdentityFake.tokens_of_loginByOAuth (f : IdentityFake) {code : String} {tokens : TokenPair}
    (h : f.loginByOAuth code = .ok tokens) : tokens = f.tokens := by
  cases hcode : code.isEmpty with
  | false =>
    rw [f.loginByOAuth_of_code hcode] at h
    cases h
    rfl
  | true =>
    rw [loginByOAuth, hcode] at h
    cases h

namespace Sim

variable {α β ε : Type} {ds : List Nat} {w w₁ : World} {y : ExceptT ε Sim α}
  {R : β → World → Prop} {P : Option ε → World → Prop}

theorem ends_bind_of_ok {f : α → ExceptT ε Sim β} {a : α} (h : y.run ds w = .ok (.ok a) w₁)
    (hf : Ends (f a) ds w₁ R P) : Ends (y >>= f) ds w R P := by
  unfold Ends
  rw [run_bind_ok h]
  exact hf

end Sim

namespace Access

/-! ## The stages -/

variable {α : Type} {src : UidSource} {s : AccessSettings} {ds : List Nat} {w w₁ : World}

/-- A store call of a sign-in stops short only with an error raised once the sign-in knows its
user, and with the stores and the session count as they were, when the call itself fails so. -/
theorem signInStore_ends {call : Sim (Except StoreError α)} {v : Except StoreError α} {target : Target}
    {op : String} {t : Duration} (hop : op ≠ "login_by_oauth") (hcall : ∀ ds', call ds' w = .ok v w₁)
    (hown : ∀ se, v = .error se → w₁.stores = w.stores ∧ w₁.idsIssued = w.idsIssued) :
    Sim.Ends (boundedStore op t (Sim.storeCall target call)) ds w (fun a w' => v = .ok a ∧ w' = w₁)
      fun e? w' => (∀ e, e? = some e → e.beforeDirectory = false) ∧ w'.stores = w.stores ∧
        w'.idsIssued = w.idsIssued := by
  refine boundedStore_ends hcall (fun _ h _ => ⟨h, rfl⟩) (fun se h => ⟨?_, hown se h⟩) fun c e? he => ⟨?_, rfl, rfl⟩
  · rintro e ⟨⟩
    rfl
  · intro e h
    rcases he e h with ⟨se, rfl⟩ | rfl
    · rfl
    · simp [AccessError.beforeDirectory, hop]

/-- The code exchange succeeds only with the provider's tokens, moving nothing, and only when it
does not hang; it stops short with the stores and the session count as they were. -/
theorem exchange_ends (code state : String) :
    Sim.Ends (boundedGateway "login_by_oauth" s.gatewayTimeout
        ((worldAuth src s).backends.identity.loginByOAuth code state)) ds w
      (fun tokens w₁ => tokens = w.identity.tokens ∧ w₁ = w ∧ w.exchangeHangs = false)
      fun _ w' => w'.stores = w.stores ∧ w'.idsIssued = w.idsIssued :=
  boundedGateway_ends (fun _ => Sim.bind_ok Sim.world_run _)
    (fun _ h hm => ⟨w.identity.tokens_of_loginByOAuth h, rfl, by rw [World.exchangeHangs, hm]; rfl⟩)
    (fun _ _ => ⟨rfl, rfl⟩) fun _ _ _ => ⟨rfl, rfl⟩

/-- The provider's answer during a sign-in: the login deadline cuts the sign-in while the
provider hangs, moving only the clock, or the answer is `providerInfo?` after `lookupWait`. -/
theorem lookup_ends (tokens : TokenPair) :
    Sim.Ends (ExceptT.lift ((worldAuth src w.settings).lookupLoginInfo tokens) :
        ExceptT AccessError Sim (Option LoginInfo)) [w.clock + w.settings.loginTimeout.toNanos] w
      (fun info w₁ => w.lookupCut = false ∧ info = w.providerInfo? ∧
        w₁ = { w with clock := w.clock + w.lookupWait })
      fun _ w' => w'.stores = w.stores ∧ w'.idsIssued = w.idsIssued := by
  cases hcut : w.lookupCut
  · refine Sim.ends_of_ok (Sim.run_exceptLift (by rw [lookup_signIn, hcut, if_neg Bool.false_ne_true])) ?_
    exact ⟨rfl, rfl, rfl⟩
  · refine Sim.ends_of_fallen (Sim.run_exceptLift_fallen (by rw [lookup_signIn, hcut, if_pos rfl])) ?_
    exact ⟨rfl, rfl⟩

/-- Who the sign-in is for, once the provider's wait is over: `signInIdentity`, in the world
`identified`, or a failure with the stores and the session count as they were. -/
theorem identify_ends :
    Sim.Ends ((worldAuth w.uidSource s).identify w.identity.tokens w.providerInfo?) ds
        { w with clock := w.clock + w.lookupWait }
      (fun uid w₁ => w.signInIdentity = .ok (uid, w.providerInfo?) ∧ w₁ = w.identified)
      fun _ w' => w'.stores = w.stores ∧ w'.idsIssued = w.idsIssued := by
  cases hinfo : w.providerInfo? with
  | some i =>
    exact Sim.ends_of_ok (identify_of_info _ i)
      ⟨World.signInIdentity_of_info hinfo, (World.identified_of_info hinfo).symm⟩
  | none =>
    cases hu : w.uidSource.userId w.identity.accessToken with
    | error e =>
      refine Sim.ends_of_error ((identify_signIn hinfo).trans (by rw [hu])) ?_
      exact ⟨rfl, rfl⟩
    | ok uid =>
      refine Sim.ends_of_ok ((identify_signIn hinfo).trans (by rw [hu])) ⟨?_, rfl⟩
      rw [World.signInIdentity_of_none hinfo, hu]
      rfl

/-- A session that fails to open leaves the stores as they were, after a session id was drawn. -/
theorem openSession_ends (tokens : TokenPair) (ttl : Duration) (uid : String) :
    Sim.Ends ((worldAuth src s).openSession tokens ttl uid) ds w (fun _ _ => True)
      fun e? w' => (∀ e, e? = some e → e.beforeDirectory = false) ∧ w'.stores = w.stores ∧
        w'.idsIssued = w.idsIssued + 1 := by
  rw [AuthService.openSession]
  refine Sim.ends_bind_of_ok (Sim.run_exceptLift (freshSessionId_of src s)) ?_
  refine Sim.ends_bind ((signInStore_ends (by decide) (fun _ => Sim.saveSession_run _ _ _) fun _ h =>
    ⟨World.saveSession_stores_of_error h, (World.saveSession_writesOnly _ _ _ _).idsIssued⟩).mono
      (fun _ _ h => h) fun _ _ h => h) ?_
  intro _ _ _
  exact Sim.ends_pure _ trivial

/-- The directory writes and the session of a sign-in from `W`: a failure keeps a prefix of the
writes, all of them once a session id was drawn. -/
theorem finish_ends (W : World) (tokens : TokenPair) (ttl : Duration) (uid : String)
    (info : Option LoginInfo) :
    Sim.Ends ((worldAuth src W.settings).finish tokens info ttl uid) ds W (fun _ _ => True)
      fun e? w' => (∀ e, e? = some e → e.beforeDirectory = false) ∧
        w'.stores ∈ W.recordPrefixes uid info ∧
        (w'.idsIssued = W.idsIssued ∨
          w'.idsIssued = W.idsIssued + 1 ∧ w'.stores = (W.recordSignIn uid info).stores) := by
  -- a write that stops short keeps the prefix its own world holds
  have written : ∀ {V : World} {e? : Option AccessError} {w' : World}, V.stores ∈ W.recordPrefixes uid info → V.idsIssued = W.idsIssued →
      ((∀ e, e? = some e → e.beforeDirectory = false) ∧ w'.stores = V.stores ∧
        w'.idsIssued = V.idsIssued) →
      (∀ e, e? = some e → e.beforeDirectory = false) ∧ w'.stores ∈ W.recordPrefixes uid info ∧
        (w'.idsIssued = W.idsIssued ∨
          w'.idsIssued = W.idsIssued + 1 ∧ w'.stores = (W.recordSignIn uid info).stores) := by
    rintro V e? w' hV hid ⟨hlate, hs, hi⟩
    exact ⟨hlate, hs ▸ hV, .inl (hi.trans hid)⟩
  -- once all writes are done, a failed session keeps them all
  have opened : ∀ {V : World}, V.stores = (W.recordSignIn uid info).stores → V.idsIssued = W.idsIssued →
      Sim.Ends ((worldAuth src W.settings).openSession tokens ttl uid) ds V (fun _ _ => True)
        fun e? w' => (∀ e, e? = some e → e.beforeDirectory = false) ∧
          w'.stores ∈ W.recordPrefixes uid info ∧
          (w'.idsIssued = W.idsIssued ∨
            w'.idsIssued = W.idsIssued + 1 ∧ w'.stores = (W.recordSignIn uid info).stores) := by
    intro V hV hid
    refine (openSession_ends tokens ttl uid).mono (fun _ _ h => h) ?_
    rintro e? w' ⟨hlate, hs, hi⟩
    exact ⟨hlate, hs ▸ hV ▸ World.recordSignIn_mem_recordPrefixes W uid info, .inr ⟨hid ▸ hi, hs.trans hV⟩⟩
  have hW₁ : (W.ensureUser uid).2.stores ∈ W.recordPrefixes uid info :=
    List.mem_cons_of_mem _ List.mem_cons_self
  unfold AuthService.finish
  rw [worldAuth_settings]
  refine Sim.ends_bind ((signInStore_ends (by decide) (fun _ => Sim.ensureUser_run uid) fun _ h => nomatch h).mono
    (fun _ _ h => h) fun _ _ => written (World.stores_mem_recordPrefixes W uid info) rfl) ?_
  rintro _ _ ⟨-, rfl⟩
  have hid₁ := (World.ensureUser_writesOnly W uid).idsIssued
  cases info with
  | none => exact opened rfl hid₁
  | some i =>
    dsimp only
    refine Sim.ends_bind ((signInStore_ends (by decide) (fun _ => Sim.saveLoginInfo_run i) fun _ h => nomatch h).mono
      (fun _ _ h => h) fun _ _ => written hW₁ hid₁) ?_
    rintro _ _ ⟨-, rfl⟩
    have hW₂ : ((W.ensureUser uid).2.saveLoginInfo i).2.stores ∈ W.recordPrefixes uid (some i) :=
      List.mem_cons_of_mem _ (List.mem_cons_of_mem _ List.mem_cons_self)
    have hid₂ := ((World.saveLoginInfo_writesOnly _ i).idsIssued).trans hid₁
    by_cases hA : W.settings.superAdmins.contains i.email
    · -- the promotion, which a durable directory may refuse
      rw [if_pos hA]
      refine Sim.ends_bind ((signInStore_ends (by decide) (fun _ => Sim.modifyUser_run uid _) fun _ h =>
        ⟨World.modifyUser_stores_of_error h, (World.modifyUser_writesOnly _ _ _).idsIssued⟩).mono
          (fun _ _ h => h) fun _ _ => written hW₂ hid₂) ?_
      rintro _ _ ⟨-, rfl⟩
      refine opened ?_ (((World.modifyUser_writesOnly _ _ _).idsIssued).trans hid₂)
      dsimp only [World.recordSignIn]
      rw [if_pos hA]
    · rw [if_neg hA]
      refine opened ?_ hid₂
      dsimp only [World.recordSignIn]
      rw [if_neg hA]

/-! ## The whole sign-in -/

variable {a : AuthService Sim} {code state : String} {ttl : Duration}

/-- A deadline above the login deadline that falls during the sign-in cuts it whole. -/
theorem completeOAuth_of_outer {level : Nat}
    (h : (a.complete code state ttl).run [w.clock + a.settings.loginTimeout.toNanos] w = .error ⟨level⟩ w₁)
    (hl : level ≠ 0) : (a.completeOAuthToSession code state ttl).run [] w = .error ⟨level⟩ w₁ := by
  have h' : (a.complete code state ttl).run ([] ++ [w.clock + a.settings.loginTimeout.toNanos]) w =
      .error ⟨level⟩ w₁ := h
  rw [AuthService.completeOAuthToSession,
    Sim.run_bind_fallen (Sim.run_exceptLift_fallen (Sim.within_of_outer h' hl))]

/-- The sign-in ends as its sequence does under the login deadline, except that the deadline's
cut becomes a timeout naming the whole sign-in. -/
theorem completeOAuth_ends {Q : CompletedLogin → World → Prop} {P : Option AccessError → World → Prop}
    (h : Sim.Ends (a.complete code state ttl) [w.clock + a.settings.loginTimeout.toNanos] w Q P) :
    Sim.Ends (a.completeOAuthToSession code state ttl) [] w Q
      fun e? w' => P e? w' ∨ e? = some (.timeout "complete_oauth" a.settings.loginTimeout) ∧ P none w' := by
  unfold Sim.Ends at h
  cases hc : (a.complete code state ttl).run [w.clock + a.settings.loginTimeout.toNanos] w with
  | ok r w' =>
    rw [hc] at h
    cases r with
    | ok done => exact Sim.ends_of_ok (completeOAuth_of_done hc) h
    | error e => exact Sim.ends_of_error (completeOAuth_of_done hc) (.inl h)
  | error f w' =>
    rw [hc] at h
    obtain ⟨level⟩ := f
    by_cases hl : level = 0
    · subst hl
      exact Sim.ends_of_error (completeOAuth_of_cut hc) (.inr ⟨rfl, h⟩)
    · exact Sim.ends_of_fallen (completeOAuth_of_outer hc hl) (.inl h)

/-- Every way the sign-in sequence from `w` can stop short leaves what `World.FailedSignIn`
allows: the stages before the directory write nothing, and the rest keep a prefix of the
writes. -/
theorem complete_ends (w : World) (code state : String) (ttl : Duration) :
    Sim.Ends ((worldAuth w.uidSource w.settings).complete code state ttl)
      [w.clock + w.settings.loginTimeout.toNanos] w (fun _ _ => True) w.FailedSignIn := by
  rw [AuthService.complete_eq, worldAuth_settings]
  refine Sim.ends_bind ((exchange_ends code state).mono (fun _ _ h => h)
    fun _ _ h => World.failedSignIn_of_unchanged h.1 h.2) ?_
  rintro _ w₁ ⟨rfl, hw₁, hx⟩
  subst w₁
  refine Sim.ends_bind ((lookup_ends w.identity.tokens).mono (fun _ _ h => h)
    fun _ _ h => World.failedSignIn_of_unchanged h.1 h.2) ?_
  rintro _ _ ⟨hcut, rfl, rfl⟩
  refine Sim.ends_bind (identify_ends.mono (fun _ _ h => h)
    fun _ _ h => World.failedSignIn_of_unchanged h.1 h.2) ?_
  rintro uid _ ⟨hid, rfl⟩
  exact (finish_ends w.identified w.identity.tokens ttl uid w.providerInfo?).mono (fun _ _ h => h)
    fun _ _ h => World.failedSignIn_of_identified (World.cutBeforeLookup_of_passed hx hcut) hid h

/-- **What a failed sign-in leaves.** In every world (either store layout, any faults, any
deadlines) a sign-in that fails leaves the session store as it was. It leaves all the stores as
they were when its error comes before the directory (the code exchange, no token reader, or a
reader that fails or gives no id), when the login deadline falls before the lookup of the login
information resolves (while the code exchange or the provider hangs), and whenever no user can be
found. Otherwise it keeps a prefix of its directory writes, in order and
with no rollback; once it has drawn a session id, which only the session save follows, it keeps
all of them. -/
theorem failed_signIn_leaves_prefix (w : World) (code state : String) (ttl : Duration)
    (e : AccessError) (w' : World)
    (h : (w.services.auth.completeOAuthToSession code state ttl).run [] w = .ok (.error e) w') :
    w'.stores.sessions = w.stores.sessions ∧
    (e.beforeDirectory = true ∨ w.cutBeforeLookup = true → w'.stores = w.stores) ∧
    match w.signInIdentity with
    | .error _ => w'.stores = w.stores
    | .ok (uid, info) => w'.stores ∈ w.recordPrefixes uid info ∧
      (w'.idsIssued = w.idsIssued ∨
        w'.idsIssued = w.idsIssued + 1 ∧ w'.stores = (w.recordSignIn uid info).stores) := by
  have hleft : w.FailedSignIn (some e) w' := by
    rcases (completeOAuth_ends (complete_ends w code state ttl)).error h with hP | ⟨he, hP⟩
    · exact hP
    · cases he
      exact World.failedSignIn_of_timeout _ hP
  obtain ⟨hbefore, hcut, hwrites⟩ := hleft
  refine ⟨?_, fun hb => hb.elim (hbefore e rfl) hcut, hwrites⟩
  revert hwrites
  split
  · intro hs
    rw [hs]
  · intro hw
    exact World.sessions_of_mem_recordPrefixes hw.1

/-- A sign-in from an empty memory world with the default settings, whose provider names `u-1`
and whose save of the login information fails. -/
theorem failed_signIn_leaves_prefix_at_failed_save :
    let w : World := { Setup.world ⟨.memory, AccessSettings.default, "", IdentityFake.defaultReply, .claims,
      "tok"⟩ with faults := ⟨[(.saveLoginInfo, .backend)]⟩ }
    ∃ e w', (w.services.auth.completeOAuthToSession "code" "state" (Duration.ofSecs 60)).run [] w =
        .ok (.error e) w' ∧
      w'.stores.sessions = w.stores.sessions ∧
      (e.beforeDirectory = true ∨ w.cutBeforeLookup = true → w'.stores = w.stores) ∧
      match w.signInIdentity with
      | .error _ => w'.stores = w.stores
      | .ok (uid, info) => w'.stores ∈ w.recordPrefixes uid info ∧
        (w'.idsIssued = w.idsIssued ∨
          w'.idsIssued = w.idsIssued + 1 ∧ w'.stores = (w.recordSignIn uid info).stores) :=
  ⟨_, _, rfl, failed_signIn_leaves_prefix _ "code" "state" (Duration.ofSecs 60) _ _ rfl⟩

/-- A failure after the directory and before the session does not leave the directory as it
was: when the save of the login information fails, the user the sign-in created stays, and no
session id was drawn. -/
theorem failed_save_keeps_created_user :
    let w : World := { Setup.world ⟨.memory, AccessSettings.default, "", IdentityFake.defaultReply, .claims,
      "tok"⟩ with faults := ⟨[(.saveLoginInfo, .backend)]⟩ }
    ∃ w', (w.services.auth.completeOAuthToSession "code" "state" (Duration.ofSecs 60)).run [] w =
        .ok (.error (.storage (.backend "injected failure"))) w' ∧ w'.idsIssued = w.idsIssued ∧
      w'.stores.sessions = w.stores.sessions ∧ w'.stores ≠ w.stores :=
  ⟨_, rfl, rfl, rfl, by decide⟩

end Access

end Warden
