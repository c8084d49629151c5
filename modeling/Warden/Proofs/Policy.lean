import Warden.Proofs.Run

/-!
# What the access policy decides

`Policy.authorize` is followed here through every world: every state of the stores, every
fault and every instant of the virtual clock. Its answer is a function of at most three answers
of the stores, each taken from the top level under the policy's deadline:

* the session store's answer for the session id (`World.sessionAnswer`);
* the directory's answer for the role of the session's owner (`World.roleAnswer`), asked only
  when the operation needs more than a signed-in caller;
* the directory's answer to creating the owner (`World.ensureAnswer`), asked only when the role
  read found no record.

## The asymmetry

Every failure of the session lookup reads as `unauthenticated`, so a caller learns nothing
about why a session was refused. Failures of the role read are reported as they are, except
a missing record, which is created with the lowest role. Since no role-gated operation admits
the lowest role, such a caller is then forbidden.
-/

namespace Warden

/-! ## Clearances -/

namespace Clearance

/-- The administrator clearance admits the two privileged roles. -/
theorem admits_admin_iff (r : Role) : admin.admits r = true ↔ r = .admin ∨ r = .superAdmin := by
  cases r <;> decide

/-- The super-administrator clearance admits only the super administrator. -/
theorem admits_superAdmin_iff (r : Role) : superAdmin.admits r = true ↔ r = .superAdmin := by
  cases r <;> decide

/-- Every clearance above a signed-in caller refuses the lowest role. -/
theorem admits_user_eq_false {c : Clearance} (hc : c ≠ .signedIn) : c.admits .user = false := by
  cases c
  · exact absurd rfl hc
  · rfl
  · rfl

end Clearance

/-- Only reading and changing one's own profile and asking for a gateway token are open to every
signed-in caller. -/
theorem Operation.clearance_eq_signedIn_iff (op : Operation) :
    op.clearance = .signedIn ↔ op = .getOwnProfile ∨ op = .updateOwnProfile ∨ op = .issueToken := by
  cases op <;> decide

/-! ## The answers of the stores -/

namespace World

/-- The session store's answer for a session id, under the deadline `t`. -/
def sessionAnswer (w : World) (t : Duration) (id : SessionId) : Except AccessError Session × World :=
  topStoreAnswer w .sessionGet "session_get" t (w.getSession id)

/-- The directory's answer for the role of a user, under the deadline `t`. -/
def roleAnswer (w : World) (t : Duration) (uid : String) : Except AccessError Role × World :=
  topStoreAnswer w .getRole "get_role" t (w.getRole uid)

/-- The directory's answer to creating a user unless it exists, under the deadline `t`. -/
def ensureAnswer (w : World) (t : Duration) (uid : String) : Except AccessError Unit × World :=
  topStoreAnswer w .ensureExists "ensure_user" t (w.ensureUser uid)

end World

/-! ## The policy of a world -/

/-- The access policy over the stores of a simulated world, with the deadline `t`. -/
def worldPolicy (t : Duration) : Access.Policy Sim :=
  ⟨(worldBackends .absent).sessions, (worldBackends .absent).users, t⟩

@[simp] theorem worldPolicy_timeout (t : Duration) : (worldPolicy t).timeout = t := rfl

/-- The services of a world share the policy over its stores. -/
theorem World.services_policy (w : World) :
    w.services.auth.policy = worldPolicy w.settings.gatewayTimeout := rfl

namespace Access

variable (w : World) (t : Duration)

theorem sessionAnswer_run (id : SessionId) :
    (boundedStore "session_get" t ((worldPolicy t).sessions.get id)).run [] w =
      .ok (w.sessionAnswer t id).1 (w.sessionAnswer t id).2 :=
  boundedStore_top fun _ => Sim.getSession_run id

theorem roleAnswer_run (uid : String) :
    (boundedStore "get_role" t ((worldPolicy t).users.getRole uid)).run [] w =
      .ok (w.roleAnswer t uid).1 (w.roleAnswer t uid).2 :=
  boundedStore_top fun _ => Sim.getRole_run uid

theorem ensureAnswer_run (uid : String) :
    (boundedStore "ensure_user" t ((worldPolicy t).users.ensureExists uid)).run [] w =
      .ok (w.ensureAnswer t uid).1 (w.ensureAnswer t uid).2 :=
  boundedStore_top fun _ => Sim.ensureUser_run uid

/-! ### Authentication -/

variable {w t}

theorem authenticate_of_empty {id : SessionId} (hid : id.isEmpty = true) :
    ((worldPolicy t).authenticate id).run [] w = .ok (.error .unauthenticated) w := by
  simp only [Policy.authenticate, hid, if_true, ExceptT.bind_throw, ExceptT.run_throw]
  rfl

theorem authenticate_of_error {id : SessionId} {e : AccessError} (hid : id.isEmpty = false)
    (h : (w.sessionAnswer t id).1 = .error e) :
    ((worldPolicy t).authenticate id).run [] w =
      .ok (.error .unauthenticated) (w.sessionAnswer t id).2 := by
  have hlook := sessionAnswer_run w t id
  rw [h] at hlook
  simp only [Policy.authenticate, hid, if_false, Bool.false_eq_true]
  exact (Sim.run_tryCatch_error (Sim.run_bind_error hlook _) _).trans rfl

theorem authenticate_of_ok {id : SessionId} {s : Session} (hid : id.isEmpty = false)
    (h : (w.sessionAnswer t id).1 = .ok s) :
    ((worldPolicy t).authenticate id).run [] w = .ok (.ok s.userId) (w.sessionAnswer t id).2 := by
  have hlook := sessionAnswer_run w t id
  rw [h] at hlook
  simp only [Policy.authenticate, hid, if_false, Bool.false_eq_true]
  exact Sim.run_tryCatch_ok ((Sim.run_bind_ok hlook _).trans rfl) _

/-! ### The role of the caller -/

theorem resolveRole_of_ok {uid : String} {r : Role} (h : (w.roleAnswer t uid).1 = .ok r) :
    ((worldPolicy t).resolveRole uid).run [] w = .ok (.ok r) (w.roleAnswer t uid).2 := by
  have hrole := roleAnswer_run w t uid
  rw [h] at hrole
  exact Sim.run_tryCatch_ok hrole _

/-- A caller without a record is created, and then holds the lowest role. -/
theorem resolveRole_of_missing {uid : String} (h : (w.roleAnswer t uid).1 = .error (.storage .notFound)) :
    ((worldPolicy t).resolveRole uid).run [] w =
      .ok (((w.roleAnswer t uid).2.ensureAnswer t uid).1.map fun _ => .user)
        ((w.roleAnswer t uid).2.ensureAnswer t uid).2 := by
  have hrole := roleAnswer_run w t uid
  have hmade := ensureAnswer_run (w.roleAnswer t uid).2 t uid
  rw [h] at hrole
  rw [Policy.resolveRole, worldPolicy_timeout, Sim.run_tryCatch_error hrole]
  cases hm : ((w.roleAnswer t uid).2.ensureAnswer t uid).1 with
  | ok u =>
    rw [hm] at hmade
    exact (Sim.run_bind_ok hmade _).trans rfl
  | error e =>
    rw [hm] at hmade
    exact Sim.run_bind_error hmade _

/-- Every other failure to read the role is the caller's answer. -/
theorem resolveRole_of_error {uid : String} {e : AccessError} (h : (w.roleAnswer t uid).1 = .error e)
    (hne : e ≠ .storage .notFound) :
    ((worldPolicy t).resolveRole uid).run [] w = .ok (.error e) (w.roleAnswer t uid).2 := by
  have hrole := roleAnswer_run w t uid
  rw [h] at hrole
  rw [Policy.resolveRole, worldPolicy_timeout, Sim.run_tryCatch_error hrole]
  cases e with
  | storage se =>
    cases se with
    | notFound => exact absurd rfl hne
    | backend m => rfl
    | serialization m => rfl
  | _ => rfl

/-! ### Authorization -/

variable {id : SessionId} {op : Operation} {w' w'' : World}

theorem authorize_of_refused {e : AccessError}
    (h : ((worldPolicy t).authenticate id).run [] w = .ok (.error e) w') :
    ((worldPolicy t).authorize id op).run [] w = .ok (.error e) w' :=
  Sim.run_bind_error h _

theorem authorize_of_signedIn {u : String}
    (h : ((worldPolicy t).authenticate id).run [] w = .ok (.ok u) w') (hop : op.clearance = .signedIn) :
    ((worldPolicy t).authorize id op).run [] w = .ok (.ok ⟨u, none⟩) w' := by
  rw [Policy.authorize, Sim.run_bind_ok h, hop]
  rfl

theorem authorize_of_role {u : String} {r : Role}
    (h : ((worldPolicy t).authenticate id).run [] w = .ok (.ok u) w') (hop : op.clearance ≠ .signedIn)
    (hr : ((worldPolicy t).resolveRole u).run [] w' = .ok (.ok r) w'') :
    ((worldPolicy t).authorize id op).run [] w =
      .ok (if op.clearance.admits r then .ok ⟨u, some r⟩ else .error .forbidden) w'' := by
  rw [Policy.authorize, Sim.run_bind_ok h]
  cases hc : op.clearance with
  | signedIn => exact absurd hc hop
  | admin =>
    rw [Sim.run_bind_ok hr]
    by_cases ha : Clearance.admin.admits r <;> simp only [ha] <;> rfl
  | superAdmin =>
    rw [Sim.run_bind_ok hr]
    by_cases ha : Clearance.superAdmin.admits r <;> simp only [ha] <;> rfl

theorem authorize_of_role_error {u : String} {e : AccessError}
    (h : ((worldPolicy t).authenticate id).run [] w = .ok (.ok u) w') (hop : op.clearance ≠ .signedIn)
    (hr : ((worldPolicy t).resolveRole u).run [] w' = .ok (.error e) w'') :
    ((worldPolicy t).authorize id op).run [] w = .ok (.error e) w'' := by
  rw [Policy.authorize, Sim.run_bind_ok h]
  cases hc : op.clearance with
  | signedIn => exact absurd hc hop
  | admin => exact Sim.run_bind_error hr _
  | superAdmin => exact Sim.run_bind_error hr _

/-- A caller with a live session is never answered as unauthenticated: the failures of the
directory are its own, store failures and timeouts. -/
theorem authorize_ne_unauthenticated {s : Session} (hid : id.isEmpty = false)
    (h : (w.sessionAnswer t id).1 = .ok s) :
    ((worldPolicy t).authorize id op).run [] w ≠ .ok (.error .unauthenticated) w' := by
  have hauth := authenticate_of_ok hid h
  generalize (w.sessionAnswer t id).2 = w₁ at hauth
  by_cases hop : op.clearance = .signedIn
  · rw [authorize_of_signedIn hauth hop]
    simp
  cases hr : (w₁.roleAnswer t s.userId).1 with
  | ok r =>
    rw [authorize_of_role hauth hop (resolveRole_of_ok hr)]
    split <;> simp
  | error e =>
    by_cases hmiss : e = .storage .notFound
    · subst hmiss
      have hres := resolveRole_of_missing hr
      generalize (w₁.roleAnswer t s.userId).2 = w₂ at hres
      cases hm : (w₂.ensureAnswer t s.userId).1 with
      | ok u =>
        rw [hm] at hres
        rw [authorize_of_role hauth hop hres, Clearance.admits_user_eq_false hop]
        simp
      | error e' =>
        rw [hm] at hres
        rw [authorize_of_role_error hauth hop hres]
        intro heq
        cases heq
        rcases topStoreAnswer_error hm with ⟨se, hse⟩ | hse <;> cases hse
    · rw [authorize_of_role_error hauth hop (resolveRole_of_error hr hmiss)]
      intro heq
      cases heq
      rcases topStoreAnswer_error hr with ⟨se, hse⟩ | hse <;> cases hse

/-- **What the policy decides**, from the top level of any world. A caller is answered as
unauthenticated exactly when the session id is empty or the session store gives no session for
it, whatever the reason. Otherwise, with `u` the session's owner: an operation open to every
signed-in caller is allowed with no role, and the world is left as the session lookup left it;
any other operation asks the directory for the role of `u` and allows it exactly when the
operation's clearance admits that role. A missing record is created and refused, and every
other failure of the directory is returned as it is. -/
theorem authorize_decides (w : World) (id : SessionId) (op : Operation) :
    let p := w.services.auth.policy
    let look := w.sessionAnswer p.timeout id
    ((∃ w', (p.authorize id op).run [] w = .ok (.error .unauthenticated) w') ↔
        id.isEmpty = true ∨ ∃ e, look.1 = .error e) ∧
    ∀ s, id.isEmpty = false → look.1 = .ok s →
      (op.clearance = .signedIn →
        (p.authorize id op).run [] w = .ok (.ok ⟨s.userId, none⟩) look.2) ∧
      (op.clearance ≠ .signedIn →
        let role := look.2.roleAnswer p.timeout s.userId
        (∀ r, role.1 = .ok r → (p.authorize id op).run [] w =
          .ok (if op.clearance.admits r then .ok ⟨s.userId, some r⟩ else .error .forbidden) role.2) ∧
        (role.1 = .error (.storage .notFound) →
          let made := role.2.ensureAnswer p.timeout s.userId
          (p.authorize id op).run [] w =
            .ok (match made.1 with | .ok () => .error .forbidden | .error e => .error e) made.2) ∧
        (∀ e, role.1 = .error e → e ≠ .storage .notFound →
          (p.authorize id op).run [] w = .ok (.error e) role.2)) := by
  dsimp only
  rw [World.services_policy, worldPolicy_timeout]
  generalize w.settings.gatewayTimeout = t
  refine ⟨⟨fun ⟨w', hw'⟩ => ?necessary, fun hcase => ?sufficient⟩, fun s hid hs => ?live⟩
  case necessary =>
    cases hid : id.isEmpty
    · cases hs : (w.sessionAnswer t id).1 with
      | error e => exact .inr ⟨e, rfl⟩
      | ok s => exact absurd hw' (authorize_ne_unauthenticated hid hs)
    · exact .inl rfl
  case sufficient =>
    cases hid : id.isEmpty
    · obtain ⟨e, he⟩ := hcase.resolve_left (by simp [hid])
      exact ⟨_, authorize_of_refused (authenticate_of_error hid he)⟩
    · exact ⟨w, authorize_of_refused (authenticate_of_empty hid)⟩
  case live =>
    have hauth := authenticate_of_ok hid hs
    refine ⟨authorize_of_signedIn hauth, fun hop => ⟨fun r hr => ?_, fun hr => ?_, fun e hr hne => ?_⟩⟩
    · exact authorize_of_role hauth hop (resolveRole_of_ok hr)
    · -- the created record carries the lowest role, which no gated clearance admits
      have hres := resolveRole_of_missing hr
      cases hm : (((w.sessionAnswer t id).2.roleAnswer t s.userId).2.ensureAnswer t s.userId).1 with
      | ok u =>
        rw [hm] at hres
        rw [authorize_of_role hauth hop hres, Clearance.admits_user_eq_false hop]
        rfl
      | error e =>
        rw [hm] at hres
        exact authorize_of_role_error hauth hop hres
    · exact authorize_of_role_error hauth hop (resolveRole_of_error hr hne)

end Access

end Warden
