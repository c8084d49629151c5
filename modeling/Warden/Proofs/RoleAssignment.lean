import Warden.Proofs.FailedSignIn
import Warden.Proofs.Policy
import Warden.Proofs.UserHistory
import Warden.Proofs.SessionStores

/-!
# Assigning a role

`RbacService.setUserRole` is followed here through every world: either store layout, any
faults, any state of the stores. It makes its checks in a fixed order and answers the first that
applies:

1. the caller is authorized for role assignment, and a refusal is the answer;
2. the requested role must be one that can be assigned, so never the super administrator's;
3. the target's current role is read, and a super administrator is not changed;
4. the role is written, and the target is created first when it is missing.

The read of step 3 is a guard and not a source of errors: when it fails or times out, the write
goes ahead. The write is a store call like any other, so it can fail in turn, and its failure is
then the answer.

## What is written

Steps 2 and 3 write nothing, so a refusal leaves the stores as the authorization left them. A
write that fails leaves them so too. A write that succeeds changes the target's role and
modification instant, of the record found or of a new one, and nothing else of the directory: in
memory (`MemoryUsers.find?_setRole`), and on durable stores, where the record found is decoded,
changed and written back as text under its key (`World.roleWriteAnswer_of_durable`).
-/

namespace Warden

namespace DurableUsers

/-- A change written to the durable directory puts the record found under the key, or a new
one, changed and stamped, back under the key, as its text; the other keys and all login
information stay. -/
theorem modify_eq {d d' : DurableUsers} {id : String} {f : User → User} {now : Timestamp}
    (h : d.modify id f now = .ok d') :
    ∃ found, d.find? id = .ok found ∧
      d' = { d with users := d.users.insert id ({ f (found.getD (User.fresh id now)) with updatedAt := now } : User).toJson.compact } := by
  unfold modify at h
  cases hfound : d.find? id with
  | error e => rw [hfound] at h; cases h
  | ok found =>
    rw [hfound] at h
    exact ⟨found, rfl, (Except.ok.inj h).symm⟩

/-- The frame of a durable change: every other key reads as before, and so does all login
information. -/
theorem modify_frame {d d' : DurableUsers} {id : String} {f : User → User} {now : Timestamp}
    (h : d.modify id f now = .ok d') :
    (∀ v, v ≠ id → d'.find? v = d.find? v) ∧ ∀ v, d'.loginOf? v = d.loginOf? v := by
  obtain ⟨_, -, rfl⟩ := modify_eq h
  refine ⟨fun v hv => ?_, fun v => rfl⟩
  unfold find?
  rw [Tree.find?_insert, if_neg hv]

end DurableUsers

namespace World

/-- The directory's answer to writing the role of a user, under the deadline `t`. -/
def roleWriteAnswer (w : World) (t : Duration) (target : String) (r : Role) : Except AccessError Unit × World :=
  topStoreAnswer w .setRole "set_role" t (w.modifyUser target fun u => { u with role := r })

variable {w : World} {t : Duration} {target : String} {r : Role}

/-- A role read writes nothing, whether it answers, fails or waits. -/
theorem roleAnswer_stores (w : World) (t : Duration) (uid : String) : (w.roleAnswer t uid).2.stores = w.stores := by
  unfold roleAnswer topStoreAnswer
  exact topAnswer_snd (P := fun w' => w'.stores = w.stores) rfl rfl fun _ => rfl

/-- A role write that fails leaves the stores as they were. -/
theorem roleWriteAnswer_stores_of_error {e : AccessError} (h : (w.roleWriteAnswer t target r).1 = .error e) :
    (w.roleWriteAnswer t target r).2.stores = w.stores := by
  unfold roleWriteAnswer topStoreAnswer at h ⊢
  rcases topAnswer_of_error h with ⟨se, hw, hs⟩ | ⟨c, hs⟩
  · -- the write itself failed, which only a durable directory does
    rw [hs]
    exact modifyUser_stores_of_error hw
  · rw [hs]

/-- A role write that succeeds leaves the stores the write gives. -/
theorem roleWriteAnswer_stores_of_ok (h : (w.roleWriteAnswer t target r).1 = .ok ()) :
    (w.roleWriteAnswer t target r).2.stores = (w.modifyUser target fun u => { u with role := r }).2.stores := by
  unfold roleWriteAnswer topStoreAnswer at h ⊢
  rw [(topAnswer_of_ok h).2]

section Durable

variable {ss : DurableSessions} {us us' : DurableUsers} {sep : Bool} {id : String} {f : User → User}

theorem modifyUser_of_durable_ok (h : w.stores = .durable ss us sep) (hm : us.modify id f w.wall = .ok us') :
    w.modifyUser id f = (.ok (), { w.tick with stores := .durable ss us' sep }) := by
  simp only [modifyUser, h, hm]

theorem modifyUser_of_durable_error {e : StoreError} (h : w.stores = .durable ss us sep)
    (hm : us.modify id f w.wall = .error e) : w.modifyUser id f = (.error e, w.tick) := by
  simp only [modifyUser, h, hm]

/-- A role write that succeeds on durable stores puts, under the target's key, the record found
there, or a new one, with the role given and the instant of the write, and keeps every other
record and all login information. -/
theorem roleWriteAnswer_of_durable (hdur : w.stores = .durable ss us sep)
    (hok : (w.roleWriteAnswer t target r).1 = .ok ()) :
    ∃ found us', us.find? target = .ok found ∧ (w.roleWriteAnswer t target r).2.stores = .durable ss us' sep ∧
      us'.users.find? target =
        some ({ found.getD (User.fresh target w.wall) with role := r, updatedAt := w.wall } : User).toJson.compact ∧
      (∀ v, v ≠ target → us'.find? v = us.find? v) ∧ ∀ v, us'.loginOf? v = us.loginOf? v := by
  have hwrite := (topAnswer_of_ok hok).1
  rw [roleWriteAnswer_stores_of_ok hok]
  cases hmod : us.modify target (fun u => { u with role := r }) w.wall with
  | error e => rw [modifyUser_of_durable_error hdur hmod] at hwrite; cases hwrite
  | ok us' =>
    obtain ⟨found, hfound, hus'⟩ := DurableUsers.modify_eq hmod
    obtain ⟨hothers, hlogins⟩ := DurableUsers.modify_frame hmod
    refine ⟨found, us', hfound, by rw [modifyUser_of_durable_ok hdur hmod], ?_, hothers, hlogins⟩
    rw [hus', Tree.find?_insert, if_pos rfl]

end Durable

end World

namespace Access

variable (w w₁ : World) (target : String) (r : Role)

/-- The guard reads the target's role from the top level, failures kept as an answer. -/
theorem guard_run :
    (ExceptT.lift (boundedStore "get_role" w.services.rbac.settings.gatewayTimeout
        (w.services.rbac.users.getRole target)).run : ExceptT AccessError Sim _).run [] w₁ =
      .ok (.ok (w₁.roleAnswer w.settings.gatewayTimeout target).1) (w₁.roleAnswer w.settings.gatewayTimeout target).2 :=
  Sim.run_exceptLift (roleAnswer_run w₁ w.settings.gatewayTimeout target)

theorem roleWrite_run :
    (boundedStore "set_role" w.services.rbac.settings.gatewayTimeout (w.services.rbac.users.setRole target r)).run
        [] w₁ =
      .ok (w₁.roleWriteAnswer w.settings.gatewayTimeout target r).1
        (w₁.roleWriteAnswer w.settings.gatewayTimeout target r).2 :=
  boundedStore_top fun _ => Sim.modifyUser_run target _

variable {w w₁ target r} {id : SessionId} {p : Principal}

/-! ## The checks in order -/

section Authorized

variable (h : (w.services.rbac.policy.authorize id .assignRole).run [] w = .ok (.ok p) w₁)
include h

/-- A role that cannot be assigned is refused once the caller is authorized, before anything is
read. -/
theorem setUserRole_of_unassignable (hr : r.isAssignable = false) :
    (w.services.rbac.setUserRole id target r).run [] w = .ok (.error .invalidRole) w₁ := by
  unfold RbacService.setUserRole
  rw [Sim.run_bind_ok h]
  simp only [hr, Bool.not_false, if_true, ExceptT.bind_throw]
  rfl

/-- A target that reads as a super administrator is not changed. -/
theorem setUserRole_of_superAdmin (hr : r.isAssignable = true)
    (hg : (w₁.roleAnswer w.settings.gatewayTimeout target).1 = .ok .superAdmin) :
    (w.services.rbac.setUserRole id target r).run [] w =
      .ok (.error .forbidden) (w₁.roleAnswer w.settings.gatewayTimeout target).2 := by
  unfold RbacService.setUserRole
  rw [Sim.run_bind_ok h]
  simp only [hr, Bool.not_true, Bool.false_eq_true, if_false]
  rw [Sim.run_bind_ok (guard_run w w₁ target), hg]
  simp only [ExceptT.bind_throw]
  rfl

/-- Any other answer of the guard, a failure included, lets the write through, and the write's
answer is the answer. -/
theorem setUserRole_of_guard_passed (hr : r.isAssignable = true)
    (hg : (w₁.roleAnswer w.settings.gatewayTimeout target).1 ≠ .ok .superAdmin) :
    (w.services.rbac.setUserRole id target r).run [] w =
      .ok ((w₁.roleAnswer w.settings.gatewayTimeout target).2.roleWriteAnswer w.settings.gatewayTimeout target r).1
        ((w₁.roleAnswer w.settings.gatewayTimeout target).2.roleWriteAnswer w.settings.gatewayTimeout target r).2 := by
  unfold RbacService.setUserRole
  rw [Sim.run_bind_ok h]
  simp only [hr, Bool.not_true, Bool.false_eq_true, if_false]
  rw [Sim.run_bind_ok (guard_run w w₁ target)]
  generalize (w₁.roleAnswer w.settings.gatewayTimeout target).1 = g at hg
  cases g with
  | error e => exact roleWrite_run w _ target r
  | ok role =>
    cases role with
    | superAdmin => exact absurd rfl hg
    | user => exact roleWrite_run w _ target r
    | admin => exact roleWrite_run w _ target r

end Authorized

/-- A refused authorization is the answer. -/
theorem setUserRole_of_refused {e : AccessError}
    (h : (w.services.rbac.policy.authorize id .assignRole).run [] w = .ok (.error e) w₁) :
    (w.services.rbac.setUserRole id target r).run [] w = .ok (.error e) w₁ :=
  Sim.run_bind_error h _

theorem setUserRole_of_fallen {f : Fallen}
    (h : (w.services.rbac.policy.authorize id .assignRole).run [] w = .error f w₁) :
    (w.services.rbac.setUserRole id target r).run [] w = .error f w₁ :=
  Sim.run_bind_fallen h _

/-! ## What a successful write leaves -/

/-- A role write that succeeds in memory changes the target's record, found or new, in its role
and modification instant, and nothing else of the directory. -/
theorem roleWrite_of_memory {W : World} {ss : MemorySessions} {us : MemoryUsers} {t : Duration}
    (hmem : W.stores = .memory ss us) (hok : (W.roleWriteAnswer t target r).1 = .ok ()) :
    ∃ us', (W.roleWriteAnswer t target r).2.stores = .memory ss us' ∧
      us'.find? target = some { us.entry target W.wall with role := r, updatedAt := W.wall } ∧
      (∀ v, v ≠ target → us'.find? v = us.find? v) ∧ ∀ v, us'.loginOf? v = us.loginOf? v := by
  refine ⟨us.modify target (fun u => { u with role := r }) W.wall, ?_, ?_, fun v hv => ?_, fun v => ?_⟩
  · rw [World.roleWriteAnswer_stores_of_ok hok, World.modifyUser_of_memory hmem]
  · exact (us.find?_setRole W.wall target r target).trans (if_pos rfl)
  · exact (us.find?_setRole W.wall target r v).trans (if_neg fun h => hv h.symm)
  · exact us.loginOf?_modify target _ W.wall v

end Access

/-- **Role assignment answers its first applicable check.** From any world, for any session,
target and requested role, with `t` the gateway deadline: a refused authorization is the answer;
once authorized, a role that cannot be assigned is refused; then a target whose role reads as a
super administrator is forbidden; and otherwise the answer is that of the role write, whatever
the guard's read answered. Neither refusal after the authorization writes anything, nor does a
write that fails. A write that succeeds sets the target's role on the record found, or on a new
one with the lowest role, and keeps its id, nickname and creation instant, every other record and
all login information: in memory as records, and on durable stores as the text under the target's
key and the records every other key reads as. -/
theorem role_assignment_first_applicable (w : World) (id : SessionId) (target : String) (r : Role) :
    let t := w.settings.gatewayTimeout
    let assign := (w.services.rbac.setUserRole id target r).run [] w
    match (w.services.rbac.policy.authorize id .assignRole).run [] w with
    | .ok (.error e) w₁ => assign = .ok (.error e) w₁
    | .ok (.ok _) w₁ =>
      (r.isAssignable = false → assign = .ok (.error .invalidRole) w₁) ∧
      (r.isAssignable = true → (w₁.roleAnswer t target).1 = .ok .superAdmin →
        assign = .ok (.error .forbidden) (w₁.roleAnswer t target).2 ∧
          (w₁.roleAnswer t target).2.stores = w₁.stores) ∧
      (r.isAssignable = true → (w₁.roleAnswer t target).1 ≠ .ok .superAdmin →
        let W := (w₁.roleAnswer t target).2
        let write := W.roleWriteAnswer t target r
        assign = .ok write.1 write.2 ∧
          (∀ e, write.1 = .error e → write.2.stores = w₁.stores) ∧
          (write.1 = .ok () → write.2.stores = (W.modifyUser target fun u => { u with role := r }).2.stores) ∧
          (∀ ss us, w₁.stores = .memory ss us → write.1 = .ok () →
            ∃ us', write.2.stores = .memory ss us' ∧
              us'.find? target = some { us.entry target W.wall with role := r, updatedAt := W.wall } ∧
              (∀ v, v ≠ target → us'.find? v = us.find? v) ∧ ∀ v, us'.loginOf? v = us.loginOf? v) ∧
          ∀ ss us sep, w₁.stores = .durable ss us sep → write.1 = .ok () →
            ∃ found us', us.find? target = .ok found ∧ write.2.stores = .durable ss us' sep ∧
              us'.users.find? target =
                some ({ found.getD (User.fresh target W.wall) with role := r, updatedAt := W.wall } : User).toJson.compact ∧
              (∀ v, v ≠ target → us'.find? v = us.find? v) ∧ ∀ v, us'.loginOf? v = us.loginOf? v)
    | .error f w₁ => assign = .error f w₁ := by
  intro t assign
  split
  · rename_i e w₁ h
    exact Access.setUserRole_of_refused h
  · rename_i p w₁ h
    refine ⟨Access.setUserRole_of_unassignable h, fun hr hg => ⟨Access.setUserRole_of_superAdmin h hr hg,
      World.roleAnswer_stores w₁ t target⟩, fun hr hg => ?_⟩
    -- the guard wrote nothing, so the write starts from the stores the authorization left
    have hread := World.roleAnswer_stores w₁ t target
    refine ⟨Access.setUserRole_of_guard_passed h hr hg, fun e he => ?_, World.roleWriteAnswer_stores_of_ok,
      fun ss us hmem hok => Access.roleWrite_of_memory (hread.trans hmem) hok,
      fun ss us sep hdur hok => World.roleWriteAnswer_of_durable (hread.trans hdur) hok⟩
    exact (World.roleWriteAnswer_stores_of_error he).trans hread
  · rename_i f w₁ h
    exact Access.setUserRole_of_fallen h

/-- A super administrator assigns `admin` to a user while the directory refuses every role write:
the caller is authorized, the role can be assigned and the target reads as no super
administrator, yet the answer is the write's failure and not success. -/
theorem role_write_failure_is_the_answer :
    let w : World := { Setup.world ⟨.memory, AccessSettings.default, "", IdentityFake.defaultReply, .absent, "tok"⟩ with
      stores := .memory ⟨[("root-session", ⟨⟨"root", TokenPair.empty⟩, 3600000000000⟩)]⟩
        ⟨[⟨"root", "", .superAdmin, wallStart, wallStart⟩], []⟩
      faults := ⟨[(.setRole, .backend)]⟩ }
    (w.services.rbac.policy.authorize ⟨"root-session"⟩ .assignRole).run [] w = .ok (.ok ⟨"root", some .superAdmin⟩) w ∧
    Role.admin.isAssignable = true ∧
    (w.roleAnswer w.settings.gatewayTimeout "plain").1 = .error (.storage .notFound) ∧
    (w.services.rbac.setUserRole ⟨"root-session"⟩ "plain" .admin).run [] w =
      .ok (.error (.storage (.backend "injected failure"))) w :=
  ⟨rfl, rfl, rfl, rfl⟩

end Warden
