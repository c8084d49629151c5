import Warden.Proofs.Grants
import Warden.Proofs.Guarded
import Warden.Proofs.JsonRead
import Warden.Proofs.SessionStores

/-!
# The life of a session

In memory and without faults, a session that a sign-in opens at the virtual instant `t₀` for a
lifetime `ttl` authenticates its user at each later instant before `t₀ + ttl` until it is signed
out, and at no other instant; there, every guarded use case called with it answers that the caller
is unauthenticated (`session_lives_until_expiry_or_sign_out`). Signing out always succeeds, does
nothing for an empty id, does nothing more when repeated, and changes no other session's answer.

## The map a run holds

The in-memory session store holds a map from ids to sessions and expiries, up to the expired
sessions it has dropped (`MemorySessions.Holds`). `World.SessionsAs M w` says so of a world. Each
service step keeps such a map: a sign-in sets its new id, a sign-out of a nonempty id erases it,
and nothing else changes it (`World.sessions_step`); so does a run (`World.sessions_run`), for
every id that no later sign-in hands out.

## Ids handed out once

A sign-in draws the next id from a count that only grows (`World.sessionIdOf`), and two counts
never give the same id (`World.sessionIdOf_inj`). So no later sign-in overwrites a session.
-/

namespace Warden

/-! ## Session ids are handed out once -/

namespace World

/-- Left padding by a character that starts neither rest comes off. -/
theorem eq_of_replicate_append {a : Char} {m n : Nat} {l l' : List Char} (hl : l.head? ≠ some a)
    (hl' : l'.head? ≠ some a) (h : List.replicate m a ++ l = List.replicate n a ++ l') : l = l' := by
  induction m generalizing n with
  | zero =>
    cases n with
    | zero => simpa using h
    | succ n =>
      -- `l` would start with the padding
      rw [List.replicate_zero, List.nil_append] at h
      subst h
      simp [List.replicate_succ] at hl
  | succ m ih =>
    cases n with
    | zero =>
      rw [List.replicate_zero, List.nil_append] at h
      subst h
      simp [List.replicate_succ] at hl'
    | succ n =>
      simp only [List.replicate_succ, List.cons_append, List.cons.injEq, true_and] at h
      exact ih h

/-- Decimal digits never start with the padding of a session id. -/
theorem toDigits_head?_ne (n : Nat) : (Nat.toDigits 10 n).head? ≠ some 'A' := by
  intro h
  obtain ⟨k, hk, hd⟩ := Json.mem_toDigits (List.mem_of_mem_head? h)
  have hdigit : ∀ k < 10, Nat.digitChar k ≠ 'A' := by decide
  exact hdigit k hk hd.symm

/-- Two counts give the same session id only when they are the same count. -/
theorem sessionIdOf_inj {m n : Nat} (h : (sessionIdOf m).text = (sessionIdOf n).text) : m = n := by
  have hdigits := eq_of_replicate_append (toDigits_head?_ne m) (toDigits_head?_ne n) (String.ofList_inj.1 h)
  have hread := congrArg (fun l => (l.map fun d => d.toNat.toUInt8).foldl Json.digitStep 0) hdigits
  simpa only [Json.foldl_digitStep_toDigits] using hread

/-- An id that no sign-in from `w` on hands out. -/
def Unissued (w : World) (k : String) : Prop := ∀ n, w.idsIssued < n → (sessionIdOf n).text ≠ k

theorem Unissued.mono {w w' : World} {k : String} (h : w.Unissued k) (hle : w.idsIssued ≤ w'.idsIssued) :
    w'.Unissued k :=
  fun n hn => h n (Nat.lt_of_le_of_lt hle hn)

/-- The id a sign-in hands out last is never handed out again. -/
theorem unissued_sessionIdOf {w : World} {n : Nat} (h : n ≤ w.idsIssued) : w.Unissued (sessionIdOf n).text :=
  fun _ hm heq => Nat.ne_of_gt (Nat.lt_of_le_of_lt h hm) (sessionIdOf_inj heq)

/-! ## The map a run holds -/

/-- The session store of `w` is in memory and holds the map `M` on the virtual clock. -/
def SessionsAs (M : SessionMap Nat) (w : World) : Prop :=
  ∃ ss us, w.stores = .memory ss us ∧ ss.Holds M w.clock

/-- `w'` holds every map that `w` holds, with the faults of `w` and at least as many session ids
handed out. -/
def KeepsSessions (w w' : World) : Prop :=
  w.idsIssued ≤ w'.idsIssued ∧ w'.faults = w.faults ∧ ∀ M, w.SessionsAs M → w'.SessionsAs M

instance : IsPreorder World KeepsSessions where
  refl _ := ⟨Nat.le_refl _, rfl, fun _ h => h⟩
  trans _ _ _ h₁ h₂ := ⟨Nat.le_trans h₁.1 h₂.1, h₂.2.1.trans h₁.2.1, fun M h => h₂.2.2 M (h₁.2.2 M h)⟩

/-- A change of the directory alone keeps the sessions. -/
theorem keepsSessions_of_users {w w' : World} (hw : WritesOnly w w')
    (hus : ∀ ss us, w.stores = .memory ss us → ∃ us', w'.stores = .memory ss us') : KeepsSessions w w' := by
  refine ⟨Nat.le_of_eq hw.idsIssued.symm, hw.faults, fun M ⟨ss, us, hst, hM⟩ => ?_⟩
  obtain ⟨us', hst'⟩ := hus ss us hst
  exact ⟨ss, us', hst', hw.clock ▸ hM⟩

theorem keepsSessions_clock (w : World) {c : Nat} (hc : w.clock ≤ c) : KeepsSessions w { w with clock := c } := by
  refine ⟨Nat.le_refl _, rfl, fun M ⟨ss, us, hst, hM⟩ => ⟨ss, us, hst, ?_⟩⟩
  -- the sessions the store dropped stay expired later
  have hlater := hM.wait (c - w.clock)
  rwa [Nat.add_sub_cancel' hc] at hlater

/-- A timer that fires keeps the sessions: it only moves the clock on. -/
theorem keepsSessions_afterTimer (w : World) (d : Duration) : KeepsSessions w (w.afterTimer d) :=
  keepsSessions_clock w (le_clockAt _ _)

theorem keepsSessions_getSession (w : World) (id : SessionId) : KeepsSessions w (w.getSession id).2 := by
  cases hst : w.stores with
  | memory ss us =>
    rw [getSession_of_memory hst]
    refine ⟨Nat.le_refl _, rfl, fun _ ⟨_, _, h₀, hM⟩ => ⟨_, us, rfl, ?_⟩⟩
    rw [hst] at h₀
    cases h₀
    exact hM.get id.text
  | durable ss us sep =>
    rw [getSession_of_durable hst]
    refine ⟨Nat.le_refl _, rfl, fun _ ⟨_, _, h₀, _⟩ => ?_⟩
    rw [hst] at h₀
    cases h₀

theorem keepsSessions_ensureUser (w : World) (id : String) : KeepsSessions w (w.ensureUser id).2 :=
  keepsSessions_of_users (ensureUser_writesOnly w id) fun _ _ h => ⟨_, by rw [ensureUser_of_memory h id]⟩

theorem keepsSessions_modifyUser (w : World) (id : String) (f : User → User) :
    KeepsSessions w (w.modifyUser id f).2 :=
  keepsSessions_of_users (modifyUser_writesOnly w id f) fun _ _ h => ⟨_, by rw [modifyUser_of_memory h]⟩

/-- The frame of the sessions: every primitive call but a save and a delete keeps them. -/
theorem keepsSessions_frame : Sim.Frame KeepsSessions where
  forward w _ hc := keepsSessions_clock w hc
  lookup := keepsSessions_getSession
  creation := keepsSessions_ensureUser
  unseen _ _ _ hf hc hid hst := ⟨Nat.le_of_eq hid.symm, hf, fun _ ⟨ss, us, h, hM⟩ =>
    ⟨ss, us, hst.trans h, hc ▸ hM⟩⟩
  nickname w id _ := keepsSessions_modifyUser w id _

/-! ## Signing out -/

/-- The world without the session of an id, in either store. -/
def dropSession (w : World) (id : SessionId) : World :=
  match w.stores with
  | .memory ss us => { w with stores := .memory (ss.erase id.text) us }
  | .durable ss us sep => { w with stores := .durable (ss.delete id.text) us sep }

/-- Dropping a session changes the stores alone. -/
theorem dropSession_writesOnly (w : World) (id : SessionId) : WritesOnly w (w.dropSession id) := by
  unfold dropSession
  split <;> exact ⟨_, w.wall, rfl⟩

theorem dropSession_dropSession (w : World) (id : SessionId) :
    (w.dropSession id).dropSession id = w.dropSession id := by
  unfold dropSession
  cases w.stores with
  | memory ss us => simp [MemorySessions.erase, List.filter_filter]
  | durable ss us sep => simp [DurableSessions.delete, DurableSessions.key, Tree.erase, List.filter_filter]

/-- Dropping one session changes no store answer for another. -/
theorem getSession_dropSession {id id' : SessionId} (h : id'.text ≠ id.text) (w : World) :
    ((w.dropSession id).getSession id').1 = (w.getSession id').1 := by
  unfold dropSession getSession
  cases w.stores with
  | memory ss us =>
    dsimp only
    unfold MemorySessions.get
    rw [MemorySessions.lookup_erase, if_neg h]
    cases ss.entries.lookup id'.text with
    | none => rfl
    | some held =>
      dsimp only
      split <;> rfl
  | durable ss us sep =>
    dsimp only
    unfold DurableSessions.get
    rw [DurableSessions.find?_delete, if_neg h]
    cases ss.tree.find? (ss.key id'.text) with
    | none => rfl
    | some text =>
      dsimp only
      split
      · rfl
      · split <;> rfl

end World

namespace Sim

theorem deleteSession_run {ds : List Nat} {w : World} (id : SessionId) :
    deleteSession id ds w = .ok (.ok ()) (w.dropSession id) := by
  unfold deleteSession World.dropSession
  rw [bind_ok world_run]
  cases w.stores <;> rfl

end Sim

namespace Access

variable {ds : List Nat} {w : World}

/-- Without a fault on the delete, a sign-out succeeds, dropping the session of a nonempty id. -/
theorem logout_run (hf : w.faults.modeOf? .sessionDelete = none) (id : SessionId) :
    (w.services.auth.logout id).run ds w = .ok (.ok ()) (if id.isEmpty then w else w.dropSession id) := by
  unfold AuthService.logout
  cases hid : id.isEmpty
  · rw [if_neg Bool.false_ne_true]
    exact bounded_of_ok ((Sim.storeCall_of_clear hf).trans (Sim.deleteSession_run id))
  · rw [if_pos rfl]
    rfl

/-- A sign-out step drops the session its text names in `w`, unless that id is empty. -/
theorem logoutStep_endOf (hf : w.faults.modeOf? .sessionDelete = none) (s : String) :
    Sim.endOf (Sim.step (.logout s)) [] w =
      if (w.sessionFor s).isEmpty then w else w.dropSession (w.sessionFor s) := by
  simp only [Sim.step, Sim.withServices]
  rw [Sim.endOf_bind_ok Sim.world_run, Sim.endOf_bind_ok (Sim.sessionOf_run s), Sim.endOf_serve,
    Sim.endOf_of_ok (logout_run hf _)]

end Access

/-! ## What authentication answers -/

namespace Sim

theorem runTop_of_ok {α : Type} {x : Sim α} {a : α} {w w' : World} (h : x [] w = .ok a w') :
    runTop x w = (some a, w') := by
  unfold runTop
  rw [EStateM.run, h]

end Sim

namespace World

variable {t : Duration}

/-- The session store's answer to a lookup depends on the world only through its faults, its
clock and the lookup's own answer. -/
theorem sessionAnswer_fst_congr {w w' : World} (hf : w'.faults = w.faults) (hc : w'.clock = w.clock)
    (id : SessionId) (hr : (w'.getSession id).1 = (w.getSession id).1) :
    (w'.sessionAnswer t id).1 = (w.sessionAnswer t id).1 :=
  topAnswer_fst_congr hf hc hr

/-- Without a fault on the lookup, a store holding `M` answers as `M` reads on the virtual clock. -/
theorem sessionAnswer_of_sessionsAs {w : World} {M : SessionMap Nat} (hf : w.faults.modeOf? .sessionGet = none)
    (hM : w.SessionsAs M) (id : SessionId) :
    (w.sessionAnswer t id).1 = (M.read monotonic id.text w.clock).mapError .storage := by
  obtain ⟨ss, us, hst, hH⟩ := hM
  have hget : (w.getSession id).1 = (ss.get id.text w.clock).1 := by
    rw [getSession_of_memory hst]
  unfold sessionAnswer topStoreAnswer topAnswer
  rw [hf, hget, hH.read]

end World

namespace Access

variable {w : World} {t : Duration}

/-- What authentication answers: that the caller is unauthenticated for an empty id or a failed
lookup, and otherwise the owner of the session found. -/
theorem authenticate_answer (id : SessionId) :
    (Sim.runTop ((worldPolicy t).authenticate id).run w).1 =
      some (if id.isEmpty then .error .unauthenticated else
        match (w.sessionAnswer t id).1 with
        | .ok s => .ok s.userId
        | .error _ => .error .unauthenticated) := by
  cases hid : id.isEmpty
  · cases hs : (w.sessionAnswer t id).1 with
    | ok s => rw [Sim.runTop_of_ok (authenticate_of_ok hid hs)]; rfl
    | error e => rw [Sim.runTop_of_ok (authenticate_of_error hid hs)]; rfl
  · rw [Sim.runTop_of_ok (authenticate_of_empty hid)]
    rfl

/-- Dropping one session changes what authentication answers for no other id. -/
theorem authenticate_dropSession {id id' : SessionId} (h : id'.text ≠ id.text) :
    (Sim.runTop ((worldPolicy t).authenticate id').run (w.dropSession id)).1 =
      (Sim.runTop ((worldPolicy t).authenticate id').run w).1 := by
  rw [authenticate_answer, authenticate_answer,
    World.sessionAnswer_fst_congr (World.dropSession_writesOnly w id).faults
    (World.dropSession_writesOnly w id).clock id' (World.getSession_dropSession h w)]

end Access

/-! ## What a sign-in does to the sessions -/

theorem MemorySessions.eq_of_expiry? {now at_ : Nat} {ttl : Duration} (h : MemorySessions.expiry? now ttl = some at_) :
    at_ = now + ttl.toNanos := by
  unfold MemorySessions.expiry? at h
  dsimp only at h
  split at h
  · cases h
  · cases h
    rfl

namespace World

theorem keepsSessions_identified (w : World) : KeepsSessions w w.identified :=
  ⟨Nat.le_refl _, rfl, fun _ ⟨ss, us, hst, hM⟩ => ⟨ss, us, hst, hM.wait w.lookupWait⟩⟩

theorem keepsSessions_recordSignIn (w : World) (uid : String) (info : Option LoginInfo) :
    KeepsSessions w (w.recordSignIn uid info) :=
  keepsSessions_of_users (recordSignIn_writesOnly w uid info) fun _ _ h => ⟨_, recordSignIn_of_memory h uid info⟩

end World

namespace Access

variable {w : World} {M : SessionMap Nat}

/-- **What a sign-in does to the sessions.** In memory and without faults, a sign-in answers at
once, with the faults as they were and no fewer ids handed out. One that succeeds hands out the
next id and sets it to the new session, which expires its lifetime after the instant the sign-in
ends; any other leaves the map as it was. -/
theorem signIn_sessions (hclear : w.faults = Faults.none) (hM : w.SessionsAs M) (code state : String)
    (ttl : Duration) :
    ∃ r w', (w.services.auth.completeOAuthToSession code state ttl).run [] w = .ok r w' ∧
      w'.faults = w.faults ∧ w.idsIssued ≤ w'.idsIssued ∧
      match r with
      | .ok c => c.sessionId = World.sessionIdOf (w.idsIssued + 1) ∧ w'.idsIssued = w.idsIssued + 1 ∧
          w'.SessionsAs (M.set c.sessionId.text (⟨c.userId, w.identity.tokens⟩, w'.clock + ttl.toNanos))
      | .error _ => w'.SessionsAs M := by
  obtain ⟨ss, us, hmem, hH⟩ := hM
  have hsc := World.signInClear_of_none hclear
  rw [World.services_auth]
  cases hcode : code.isEmpty
  case true =>
    -- the provider turns the code down, and nothing moves
    exact ⟨_, w, completeOAuth_of_done (complete_of_rejected hsc.1 hcode), rfl, Nat.le_refl _, ss, us, hmem, hH⟩
  case false =>
    have hrun : ((worldAuth w.uidSource w.settings).complete code state ttl).run
        [w.clock + w.settings.loginTimeout.toNanos] w = _ := complete_of_clear hmem hsc hcode
    cases hcut : w.lookupCut
    case true =>
      -- the login deadline falls while the provider hangs: only the clock moved
      have hkeep := World.keepsSessions_afterTimer w w.settings.loginTimeout
      exact ⟨_, _, completeOAuth_of_cut (hrun.trans (if_pos hcut)), rfl, Nat.le_refl _,
        hkeep.2.2 M ⟨ss, us, hmem, hH⟩⟩
    case false =>
      cases hid : w.signInIdentity with
      | error e =>
        -- no one to sign in: the provider's wait is over, and nothing is written
        exact ⟨.error e, w.identified, completeOAuth_of_done (hrun.trans (by rw [hcut, if_neg Bool.false_ne_true, hid])),
          rfl, Nat.le_refl _, (World.keepsSessions_identified w).2.2 M ⟨ss, us, hmem, hH⟩⟩
      | ok who =>
        obtain ⟨uid, info⟩ := who
        have hdone : ((worldAuth w.uidSource w.settings).complete code state ttl).run
            [w.clock + w.settings.loginTimeout.toNanos] w = _ := complete_of_identity hmem hsc hcode hcut hid
        -- the directory writes keep the map, on the clock the provider's wait moved
        have hW := World.recordSignIn_writesOnly w.identified uid info
        have hkW : World.KeepsSessions w (w.identified.recordSignIn uid info) :=
          trans_of _ (World.keepsSessions_identified w) (World.keepsSessions_recordSignIn _ uid info)
        have hWH : ss.Holds M (w.identified.recordSignIn uid info).clock := by
          rw [hW.clock]
          exact hH.wait w.lookupWait
        dsimp only at hdone
        cases hexp : MemorySessions.expiry? (w.identified.recordSignIn uid info).clock ttl with
        | none =>
          -- the lifetime cannot be held: an id was drawn, and nothing saved
          rw [hexp] at hdone
          exact ⟨_, _, completeOAuth_of_done hdone, hkW.2.1, Nat.le_succ_of_le hkW.1,
            hkW.2.2 M ⟨ss, us, hmem, hH⟩⟩
        | some at_ =>
          rw [hexp] at hdone
          obtain rfl := MemorySessions.eq_of_expiry? hexp
          exact ⟨_, _, completeOAuth_of_done hdone, hkW.2.1, Nat.le_succ_of_le hkW.1, rfl,
            by rw [hW.idsIssued]; rfl, _, _, rfl, hWH.save _ _ _⟩

end Access

/-! ## One step, and a run -/

/-- The session ids a step signs out, read in the world it starts from: the nonempty id that a
sign-out names. -/
def Step.signsOut (w : World) : Step → List String
  | .logout s => if (w.sessionFor s).isEmpty then [] else [(w.sessionFor s).text]
  | _ => []

theorem Step.signsOut_of_ne {st : Step} (h : ¬∃ s, st = .logout s) (w : World) : Step.signsOut w st = [] := by
  cases st <;> simp_all [Step.signsOut]

namespace World

theorem sessionsAs_dropSession {w : World} {M : SessionMap Nat} (hM : w.SessionsAs M) (id : SessionId) :
    (w.dropSession id).SessionsAs (M.erase id.text) := by
  obtain ⟨ss, us, hst, hH⟩ := hM
  have hdrop : (w.dropSession id).stores = .memory (ss.erase id.text) us := by
    unfold dropSession
    rw [hst]
  refine ⟨_, _, hdrop, ?_⟩
  rw [(dropSession_writesOnly w id).clock]
  exact hH.erase id.text

theorem keepsSessions_roleWrite : ∀ (w : World) (id : String) (r : Role),
    KeepsSessions w (w.modifyUser id fun u => { u with role := r }).2 :=
  fun w id r => keepsSessions_modifyUser w id fun u => { u with role := r }

/-- A role assignment and every plain step keep the sessions. -/
theorem keeps_step_sessions {st : Step}
    (h : (∃ s target role, st = .setUserRole s target role) ∨ st.isPlain = true) :
    Sim.Keeps KeepsSessions (Sim.step st) := by
  -- the relation and its preorder are given by name, as for ownership
  rcases h with ⟨s, target, role, rfl⟩ | hplain
  · exact @Access.keeps_assignStep KeepsSessions inferInstance keepsSessions_frame keepsSessions_roleWrite s
      target role
  · exact @Access.keeps_plainStep KeepsSessions inferInstance keepsSessions_frame _ hplain

variable {w : World} {M : SessionMap Nat}

/-- **One step.** In memory and without faults, a service step keeps a map of the sessions, with
the faults and no fewer ids handed out. For every id that no later sign-in hands out, only a
sign-out of that id changes its entry, and it erases it. -/
theorem sessions_step (hclear : w.faults = Faults.none) (hM : w.SessionsAs M) {st : Step}
    (hst : st.isService = true) :
    (Sim.runTop (Sim.step st) w).2.faults = Faults.none ∧ w.idsIssued ≤ (Sim.runTop (Sim.step st) w).2.idsIssued ∧
      ∃ M', (Sim.runTop (Sim.step st) w).2.SessionsAs M' ∧
        ∀ k, w.Unissued k → M' k = if k ∈ Step.signsOut w st then none else M k := by
  rw [Sim.runTop_snd]
  -- the step stays a variable past the split unless its end is described by a lemma
  rcases Step.isService_cases hst with ⟨code, state, reply, token, ttl, rfl⟩ | hother
  · -- a sign-in sets the id it hands out, and an id still unissued is not that one
    obtain ⟨r, w₁, hrun, hf₁, hids₁, hr⟩ :=
      Access.signIn_sessions (w := w.withGateway reply token) hclear hM code state (ttl.resolve w.settings.sessionTtl)
    have hlabel := Access.loginStep_endOf keepsSessions_frame w code state reply token ttl
    rw [Sim.endOf_of_ok hrun] at hlabel
    have hf : (Sim.endOf (Sim.step (.login code state reply token ttl)) [] w).faults = Faults.none :=
      hlabel.2.1.trans (hf₁.trans hclear)
    cases r with
    | ok c =>
      obtain ⟨hsid, -, hM₁⟩ := hr
      refine ⟨hf, Nat.le_trans hids₁ hlabel.1, _, hlabel.2.2 _ hM₁, fun k hk => ?_⟩
      have hne : k ≠ c.sessionId.text := by
        rw [hsid]
        exact fun h => hk (w.idsIssued + 1) (Nat.lt_succ_self _) h.symm
      simp [Step.signsOut, SessionMap.set, hne]
    | error e =>
      exact ⟨hf, Nat.le_trans hids₁ hlabel.1, M, hlabel.2.2 M hr, fun k _ => by simp [Step.signsOut]⟩
  · by_cases hout : ∃ s, st = .logout s
    · -- a sign-out erases the nonempty id it names
      obtain ⟨s, rfl⟩ := hout
      have hdel : w.faults.modeOf? .sessionDelete = none := by rw [hclear]; rfl
      rw [Access.logoutStep_endOf hdel]
      by_cases hempty : (w.sessionFor s).isEmpty = true
      · rw [if_pos hempty]
        exact ⟨hclear, Nat.le_refl _, M, hM, fun k _ => by simp [Step.signsOut, hempty]⟩
      · rw [if_neg hempty]
        have hw := dropSession_writesOnly w (w.sessionFor s)
        refine ⟨hw.faults.trans hclear, Nat.le_of_eq hw.idsIssued.symm, _, sessionsAs_dropSession hM _,
          fun k _ => ?_⟩
        simp [Step.signsOut, hempty, SessionMap.erase]
    · -- every other step keeps the map
      have hkeep := (keeps_step_sessions (hother.imp id fun hno => by
        cases st <;> simp_all [Step.writesNoRole, Step.isPlain])).endOf [] w
      exact ⟨hkeep.2.1.trans hclear, hkeep.1, M, hkeep.2.2 M hM, fun k _ => by
        rw [Step.signsOut_of_ne hout, if_neg (List.not_mem_nil)]⟩

end World

namespace World

variable {w : World} {M : SessionMap Nat}

/-- **A run.** In memory and without faults, a run of service steps keeps a map of the sessions,
with the faults and no fewer ids handed out. For every id that no sign-in of the run hands out,
the run's sign-outs of it erase its entry, which nothing else changes. -/
theorem sessions_run (hclear : w.faults = Faults.none) (hM : w.SessionsAs M) {steps : List Step}
    (hsvc : ∀ st ∈ steps, st.isService = true) :
    (w.afterSteps steps).faults = Faults.none ∧ w.idsIssued ≤ (w.afterSteps steps).idsIssued ∧
      ∃ M', (w.afterSteps steps).SessionsAs M' ∧
        ∀ k, w.Unissued k → M' k = if k ∈ w.trace Step.signsOut steps then none else M k := by
  -- the invariant carries the ids signed out so far
  have hrun := @afterSteps_of_step String Step.signsOut
    (fun hs w' => w'.faults = Faults.none ∧ w.idsIssued ≤ w'.idsIssued ∧ ∃ M', w'.SessionsAs M' ∧
      ∀ k, w.Unissued k → M' k = if k ∈ hs then none else M k)
    (fun hs w₁ st hst ⟨hf₁, hids₁, M₁, hM₁, hk₁⟩ => by
      obtain ⟨hf₂, hids₂, M₂, hM₂, hk₂⟩ := sessions_step hf₁ hM₁ hst
      refine ⟨hf₂, Nat.le_trans hids₁ hids₂, M₂, hM₂, fun k hk => ?_⟩
      rw [hk₂ k (hk.mono hids₁), hk₁ k hk]
      by_cases h₁ : k ∈ hs <;> by_cases h₂ : k ∈ Step.signsOut w₁ st <;> simp [h₁, h₂])
    [] w ⟨hclear, Nat.le_refl _, M, hM, fun k _ => by simp⟩ steps hsvc
  rwa [List.nil_append] at hrun

theorem afterSteps_append (w : World) (s₁ s₂ : List Step) :
    w.afterSteps (s₁ ++ s₂) = (w.afterSteps s₁).afterSteps s₂ :=
  List.foldl_append

/-- Session ids are never empty. -/
theorem sessionIdOf_isEmpty (n : Nat) : (sessionIdOf n).isEmpty = false := by
  rw [SessionId.isEmpty, String.isEmpty_eq_false_iff]
  intro h
  have hl := congrArg String.toList h
  rw [sessionIdOf, String.toList_ofList] at hl
  exact Nat.toDigits_ne_nil (List.append_eq_nil_iff.1 hl).2

end World

/-- A scenario in memory starts with no session. -/
theorem Setup.sessionsAs_world (setup : Setup) (hmem : setup.layout = .memory) :
    setup.world.SessionsAs SessionMap.empty := by
  refine ⟨MemorySessions.empty, MemoryUsers.empty, ?_, MemorySessions.Holds.empty 0⟩
  unfold Setup.world
  rw [hmem]

namespace Access

/-- A sign-out without a fault on the delete answers `ok`, changes nothing for an empty id,
answers the same and changes nothing more when repeated, and changes what authentication answers
for no other id. -/
theorem logout_answers (v : World) (id : SessionId) (hf : v.faults.modeOf? .sessionDelete = none) :
    (Sim.runTop (v.services.auth.logout id).run v).1 = some (.ok ()) ∧
      (id.isEmpty = true → (Sim.runTop (v.services.auth.logout id).run v).2 = v) ∧
      (Sim.runTop ((Sim.runTop (v.services.auth.logout id).run v).2.services.auth.logout id).run
        (Sim.runTop (v.services.auth.logout id).run v).2) = Sim.runTop (v.services.auth.logout id).run v ∧
      ∀ id' : SessionId, id'.text ≠ id.text →
        (Sim.runTop ((Sim.runTop (v.services.auth.logout id).run v).2.services.auth.policy.authenticate id').run
          (Sim.runTop (v.services.auth.logout id).run v).2).1 =
            (Sim.runTop (v.services.auth.policy.authenticate id').run v).1 := by
  rw [Sim.runTop_of_ok (logout_run hf id)]
  cases hid : id.isEmpty
  · -- a nonempty id: its session is dropped, once
    rw [if_neg Bool.false_ne_true]
    have hw := World.dropSession_writesOnly v id
    have hf' : (v.dropSession id).faults.modeOf? .sessionDelete = none := by rw [hw.faults]; exact hf
    refine ⟨rfl, fun h => absurd h Bool.false_ne_true, ?_, fun id' hne => ?_⟩
    · rw [Sim.runTop_of_ok (logout_run hf' id), hid, if_neg Bool.false_ne_true, World.dropSession_dropSession]
    · rw [World.services_policy, World.services_policy, hw.settings]
      exact authenticate_dropSession hne
  · -- an empty id: nothing moves
    rw [if_pos rfl]
    exact ⟨rfl, fun _ => rfl, by rw [Sim.runTop_of_ok (logout_run hf id), hid, if_pos rfl], fun _ _ => rfl⟩

end Access

/-! ## The life of a session -/

/-- **The life of a session.** Along a run of service operations from a scenario in memory, let a
sign-in, run from the world that the steps `before` leave with the provider's reply set, answer
the session `c` in the world `w₁`, at the instant `w₁.clock`. After the sign-in step and any
further service steps `after`, authentication with `c.sessionId` answers `c.userId` exactly while
the clock is before `w₁.clock` plus the session's lifetime and no sign-out of that id came in
`after`, and that the caller is unauthenticated otherwise; then every guarded use case called with
it answers so too. A sign-out, in any world without a fault on the delete, answers `ok`; it
changes nothing for an empty id; repeating it answers the same and changes nothing more; and it
changes what authentication answers for no other id. -/
theorem session_lives_until_expiry_or_sign_out (setup : Setup) (hmem : setup.layout = .memory)
    (before after : List Step) (hsvc : ∀ st ∈ before ++ after, st.isService = true)
    (code state : String) (reply : Option Reply) (token : Option String) (ttl : TtlRequest)
    (c : Access.CompletedLogin) (w₁ : World) :
    let w₀ := (setup.world.afterSteps before).withGateway reply token
    let life := ttl.resolve w₀.settings.sessionTtl
    (w₀.services.auth.completeOAuthToSession code state life).run [] w₀ = .ok (.ok c) w₁ →
    let start := setup.world.afterSteps (before ++ [.login code state reply token ttl])
    let w := start.afterSteps after
    let live := w.clock < w₁.clock + life.toNanos ∧ c.sessionId.text ∉ start.trace Step.signsOut after
    (Sim.runTop (w.services.auth.policy.authenticate c.sessionId).run w).1 =
        some (if live then .ok c.userId else .error .unauthenticated) ∧
      (¬live → ∀ uc : UseCase,
        (Sim.runTop (uc.call w.services c.sessionId).run w).1 = some (.error .unauthenticated)) ∧
      ∀ (v : World) (id : SessionId), v.faults.modeOf? .sessionDelete = none →
        let out := Sim.runTop (v.services.auth.logout id).run v
        out.1 = some (.ok ()) ∧ (id.isEmpty = true → out.2 = v) ∧
        Sim.runTop (out.2.services.auth.logout id).run out.2 = out ∧
        ∀ id' : SessionId, id'.text ≠ id.text →
          (Sim.runTop (out.2.services.auth.policy.authenticate id').run out.2).1 =
            (Sim.runTop (v.services.auth.policy.authenticate id').run v).1 := by
  intro w₀ life hsign start w live
  -- before the sign-in: a map of the sessions, and no faults
  obtain ⟨hf₀, -, M₀, hM₀, -⟩ := World.sessions_run (rfl : setup.world.faults = Faults.none)
    (Setup.sessionsAs_world setup hmem) fun st h => hsvc st (List.mem_append_left _ h)
  -- the sign-in sets the next id to the new session
  obtain ⟨r, w₁', hrun, hf₁, -, hr⟩ := Access.signIn_sessions (w := w₀) hf₀ hM₀ code state life
  rw [hsign] at hrun
  cases hrun
  obtain ⟨hsid, hids₁, hM₁⟩ := hr
  -- the sign-in step ends where the sign-in ends, up to a label
  have hstart : start = Sim.endOf (Sim.step (.login code state reply token ttl)) [] (setup.world.afterSteps before) := by
    show setup.world.afterSteps (before ++ [_]) = _
    rw [World.afterSteps_append, World.afterSteps_cons, World.afterSteps_nil, Sim.runTop_snd]
  have hlabel : World.KeepsSessions w₁ start := by
    rw [hstart, ← Sim.endOf_of_ok hsign]
    exact Access.loginStep_endOf World.keepsSessions_frame (setup.world.afterSteps before) code state reply token ttl
  have hfs : start.faults = Faults.none := hlabel.2.1.trans (hf₁.trans hf₀)
  have hunissued : start.Unissued c.sessionId.text := by
    rw [hsid]
    exact World.unissued_sessionIdOf (hids₁ ▸ hlabel.1)
  -- after it: the id's entry is the session until a sign-out erases it
  obtain ⟨hfw, -, M, hM, hk⟩ := World.sessions_run hfs (hlabel.2.2 _ hM₁)
    fun st h => hsvc st (List.mem_append_right _ h)
  have hentry := hk _ hunissued
  rw [SessionMap.set, if_pos rfl] at hentry
  have hlook : w.faults.modeOf? .sessionGet = none := by rw [hfw]; rfl
  have hanswer := World.sessionAnswer_of_sessionsAs (t := w.settings.gatewayTimeout) hlook hM c.sessionId
  have hread : (M.read monotonic c.sessionId.text w.clock).mapError AccessError.storage =
      if live then .ok ⟨c.userId, w₀.identity.tokens⟩ else .error (.storage .notFound) := by
    unfold SessionMap.read
    rw [hentry]
    by_cases hout : c.sessionId.text ∈ start.trace Step.signsOut after
    · rw [if_pos hout, if_neg fun h => h.2 hout]
      rfl
    · rw [if_neg hout]
      by_cases hlive : w.clock < w₁.clock + life.toNanos
      · rw [if_pos ⟨hlive, hout⟩]
        simp only [monotonic, hlive, decide_true, if_true]
        rfl
      · rw [if_neg fun h => hlive h.1]
        simp only [monotonic, hlive, decide_false, Bool.false_eq_true, if_false]
        rfl
  have hne : c.sessionId.isEmpty = false := by rw [hsid]; exact World.sessionIdOf_isEmpty _
  refine ⟨?_, fun hdead uc => ?_, fun v id hf => Access.logout_answers v id hf⟩
  · rw [World.services_policy, Access.authenticate_answer, hne, if_neg Bool.false_ne_true, hanswer, hread]
    by_cases hlive : live
    · rw [if_pos hlive, if_pos hlive]
    · rw [if_neg hlive, if_neg hlive]
  · -- refused at authentication, every use case answers the refusal
    rw [if_neg hdead] at hread
    have hauth := Access.authenticate_of_error hne (hanswer.trans hread)
    exact congrArg Prod.fst (Sim.runTop_of_ok (UseCase.call_of_refused uc (Access.authorize_of_refused hauth)))

/-- A sign-in at the start of a scenario, a minute of the clock, and a sign-out of its session. -/
theorem session_lives_until_expiry_or_sign_out_then_signed_out :
    let setup : Setup := ⟨.memory, AccessSettings.default, "", IdentityFake.defaultReply, .claims, "tok"⟩
    let after := [Step.advance 60 0, Step.logout "$1"]
    let w₀ := (setup.world.afterSteps []).withGateway none none
    let life := TtlRequest.none.resolve w₀.settings.sessionTtl
    let c : Access.CompletedLogin := ⟨World.sessionIdOf 1, "u-1"⟩
    let w₁ := (Sim.runTop (w₀.services.auth.completeOAuthToSession "code" "state" life).run w₀).2
    setup.layout = .memory ∧ (∀ st ∈ [] ++ after, st.isService = true) ∧
    (w₀.services.auth.completeOAuthToSession "code" "state" life).run [] w₀ = .ok (.ok c) w₁ ∧
    let start := setup.world.afterSteps ([] ++ [.login "code" "state" none none .none])
    let w := start.afterSteps after
    let live := w.clock < w₁.clock + life.toNanos ∧ c.sessionId.text ∉ start.trace Step.signsOut after
    (Sim.runTop (w.services.auth.policy.authenticate c.sessionId).run w).1 =
        some (if live then .ok c.userId else .error .unauthenticated) ∧
      (¬live → ∀ uc : UseCase,
        (Sim.runTop (uc.call w.services c.sessionId).run w).1 = some (.error .unauthenticated)) ∧
      ∀ (v : World) (id : SessionId), v.faults.modeOf? .sessionDelete = none →
        let out := Sim.runTop (v.services.auth.logout id).run v
        out.1 = some (.ok ()) ∧ (id.isEmpty = true → out.2 = v) ∧
        Sim.runTop (out.2.services.auth.logout id).run out.2 = out ∧
        ∀ id' : SessionId, id'.text ≠ id.text →
          (Sim.runTop (out.2.services.auth.policy.authenticate id').run out.2).1 =
            (Sim.runTop (v.services.auth.policy.authenticate id').run v).1 :=
  ⟨rfl, by decide, rfl, session_lives_until_expiry_or_sign_out _ rfl [] _ (by decide) _ _ _ _ _ _ _ rfl⟩

end Warden
