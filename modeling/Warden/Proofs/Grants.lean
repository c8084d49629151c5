import Warden.Proofs.Roles

/-!
# Roles along a run

Along a run of service operations from an empty directory in memory, the role of every user can
be read off the run's history: a user is a super administrator exactly when a sign-in obtained
the provider's information about it with an address on the super-admin list, and otherwise holds
the role of the last assignment to it that succeeded, or the lowest role.

## The two writers

Only two operations write a role. A sign-in, in memory and without faults, changes one role at
most: the user whose information it obtains is promoted when the address is on the list
(`signIn_roles`). A role assignment that succeeds asked for an assignable role and found its
target without the super-administrator role (`setUserRole_roles`); that guard is what keeps a
promotion for good. Every other operation keeps the roles (`Access.keeps_step`).

## The history

A run's history is the list of its grants (`Grant`), in the order of the steps: what each
sign-in obtained from the provider, and each role assignment that succeeded. It is taken from
the world before each step (`Step.grants`): what the provider answers for the step's code, and
whether the assignment, run from that world, succeeds. `grantedRole` reads a role off a history,
the promotion first and then the last assignment.

## The invariant

`RolesFollow A gs w` says that `w` has the list `A`, no faults, and a directory in memory with
the roles `gs` gives. A service step keeps it with the step's grants appended
(`RolesFollow.step`), so every run from an empty directory does (`RolesFollow.run`).
-/

namespace Warden

/-! ## The two writers -/

/-- The provider's information a sign-in with `code` obtains in `w`: the code exchange must go
through, and the provider must answer at once with a user. -/
def World.obtainedInfo? (w : World) (code : String) : Option LoginInfo :=
  if code.isEmpty = false ∧ w.faults.modeOf? .loginByOAuth = none then w.providerInfo? else none

namespace World

variable {w : World}

/-- The login deadline cuts a sign-in only while the provider hangs, and then it has no answer. -/
theorem providerInfo?_of_lookupCut (h : w.lookupCut = true) : w.providerInfo? = none := by
  cases hm : w.faults.modeOf? .loginInfo with
  | some m => rw [providerInfo?, hm]
  | none =>
    cases hr : w.identity.reply with
    | info i => rw [lookupCut, providerHangs, hm, hr] at h; cases h
    | fail => rw [providerInfo?, hm, hr]
    | hang => rw [providerInfo?, hm, hr]

/-- The information a sign-in keeps is the provider's answer. -/
theorem providerInfo?_of_identity {uid : String} {info : Option LoginInfo}
    (h : w.signInIdentity = .ok (uid, info)) : w.providerInfo? = info := by
  unfold signInIdentity at h
  cases hp : w.providerInfo? with
  | some j =>
    rw [hp] at h
    cases h
    rfl
  | none =>
    rw [hp] at h
    cases hu : w.uidSource.userId w.identity.accessToken with
    | error e => rw [hu] at h; cases h
    | ok v => rw [hu] at h; cases h; rfl

/-- A sign-in that cannot tell who it is for had no answer from the provider. -/
theorem providerInfo?_of_identity_error {e : AccessError} (h : w.signInIdentity = .error e) :
    w.providerInfo? = none := by
  cases hp : w.providerInfo? with
  | none => rfl
  | some i => rw [signInIdentity_of_info hp] at h; cases h

theorem keepsRoles_identified (w : World) : KeepsRoles w w.identified :=
  keepsRoles_of_users rfl rfl fun ss _ h => ⟨ss, h⟩

end World

namespace Access

variable {w : World} {ss : MemorySessions} {us : MemoryUsers}

/-- The provider turns an empty code down, and the sign-in stops there. -/
theorem complete_of_rejected {src : UidSource} {s : AccessSettings} {ds : List Nat} {code state : String}
    {ttl : Duration} (hm : w.faults.modeOf? .loginByOAuth = none) (hcode : code.isEmpty = true) :
    ((worldAuth src s).complete code state ttl).run ds w = .ok (.error (.gateway (.rejected "code"))) w := by
  rw [AuthService.complete_eq, worldAuth_settings]
  refine Sim.run_bind_error ((exchange_of_clear code state hm).trans ?_) _
  rw [IdentityFake.loginByOAuth, if_pos hcode]
  rfl

/-- A sign-in ends where its sequence ends under the login deadline, whether it finishes, the
deadline cuts it, or an outer one does. -/
theorem completeOAuth_endOf (a : AuthService Sim) (code state : String) (ttl : Duration) (w : World) :
    Sim.endOf (a.completeOAuthToSession code state ttl).run [] w =
      Sim.endOf (a.complete code state ttl).run [w.clock + a.settings.loginTimeout.toNanos] w := by
  cases h : (a.complete code state ttl).run [w.clock + a.settings.loginTimeout.toNanos] w with
  | ok r w₁ => rw [Sim.endOf_of_ok h, Sim.endOf_of_ok (completeOAuth_of_done h)]
  | error f w₁ =>
    obtain ⟨level⟩ := f
    rw [Sim.endOf_of_fallen h]
    by_cases hl : level = 0
    · subst hl
      rw [Sim.endOf_of_ok (completeOAuth_of_cut h)]
    · rw [Sim.endOf_of_fallen (completeOAuth_of_outer h hl)]

/-- **What a sign-in does to the roles.** In memory and without faults, a sign-in changes one role
at most: when it obtains the provider's information and the address in it is on the super-admin
list, the user the information names becomes a super administrator. -/
theorem signIn_roles (hmem : w.stores = .memory ss us) (hclear : w.faults = Faults.none)
    (code state : String) (ttl : Duration) :
    w.HasRoles (Sim.endOf (w.services.auth.completeOAuthToSession code state ttl).run [] w) fun u =>
      match w.obtainedInfo? code with
      | some i => if i.userId = u ∧ w.settings.superAdmins.contains i.email = true then .superAdmin
          else us.roleOf u
      | none => us.roleOf u := by
  have hsc := World.signInClear_of_none hclear
  -- a sign-in that obtains nothing writes no role
  have hkept : ∀ w', World.KeepsRoles w w' → w.obtainedInfo? code = none →
      w.HasRoles w' fun u => match w.obtainedInfo? code with
        | some i => if i.userId = u ∧ w.settings.superAdmins.contains i.email = true then .superAdmin
            else us.roleOf u
        | none => us.roleOf u := by
    intro w' hk hnone
    rw [hnone]
    exact World.hasRoles_of_keepsRoles hmem hk
  rw [World.services_auth, completeOAuth_endOf, worldAuth_settings]
  cases hcode : code.isEmpty
  case true =>
    -- the code is turned down
    rw [Sim.endOf_of_ok (complete_of_rejected hsc.1 hcode)]
    exact hkept w (refl_of _ w) (by rw [World.obtainedInfo?, if_neg fun h => by simp [hcode] at h])
  case false =>
    have hinfo : w.obtainedInfo? code = w.providerInfo? := by
      rw [World.obtainedInfo?, if_pos ⟨hcode, hsc.1⟩]
    have hrun : ((worldAuth w.uidSource w.settings).complete code state ttl).run
        [w.clock + w.settings.loginTimeout.toNanos] w = _ := complete_of_clear hmem hsc hcode
    cases hcut : w.lookupCut
    case true =>
      -- the login deadline falls while the provider hangs: only the clock moved
      rw [Sim.endOf_of_fallen (hrun.trans (if_pos hcut))]
      exact hkept _ (World.keepsRoles_clock w _) (hinfo.trans (World.providerInfo?_of_lookupCut hcut))
    case false =>
      cases hid : w.signInIdentity with
      | error e =>
        rw [Sim.endOf_of_ok (hrun.trans (by rw [hcut, if_neg Bool.false_ne_true, hid]))]
        exact hkept _ (World.keepsRoles_identified w) (hinfo.trans (World.providerInfo?_of_identity_error hid))
      | ok who =>
        obtain ⟨uid, info⟩ := who
        rw [Sim.endOf_of_eq (hrun.trans (by rw [hcut, if_neg Bool.false_ne_true, hid]))]
        -- the directory writes, then the session, which keeps the roles
        refine World.HasRoles.keepsRoles ?_ ((keeps_openSession _ _ _ _ uid).endOf _ _)
        have hW := World.recordSignIn_writesOnly w.identified uid info
        have hmem₁ : w.identified.stores = .memory ss us := hmem
        refine ⟨hW.settings, hW.faults, ss, _, World.recordSignIn_of_memory hmem₁ uid info, fun u => ?_⟩
        rw [MemoryUsers.roleOf_signIn, hinfo, World.providerInfo?_of_identity hid]
        cases info with
        | none => rfl
        | some i =>
          dsimp only
          rw [World.signInIdentity_info hid i rfl]
          rfl

theorem setUserRole_roles {w : World} {ss : MemorySessions} {us : MemoryUsers} (hmem : w.stores = .memory ss us)
    (hclear : w.faults = Faults.none) (id : SessionId) (target : String) (r : Role) :
    Sim.Ends (w.services.rbac.setUserRole id target r) [] w
      (fun _ w' => r.isAssignable = true ∧ us.roleOf target ≠ .superAdmin ∧
        w.HasRoles w' fun u => if target = u then r else us.roleOf u)
      (fun _ w' => w.HasRoles w' us.roleOf) := by
  have hkept : ∀ w' : World, World.KeepsRoles w w' → w.HasRoles w' us.roleOf :=
    fun _ hk => World.hasRoles_of_keepsRoles hmem hk
  unfold RbacService.setUserRole
  refine Sim.ends_bind (((keeps_authorize World.keepsRoles_frame.toPolicyFrame w.settings.gatewayTimeout id
    _).ends [] w).mono (fun _ _ h => h) fun _ => hkept)
    fun _ w₁ hk₁ => ?_
  -- the caller is a super administrator, and the world keeps the roles of `w`
  obtain ⟨ss₁, us₁, hmem₁, hroles₁⟩ := hk₁.2.2 ss us hmem
  have hclear₁ : w₁.faults = Faults.none := hk₁.2.1.trans hclear
  dsimp only
  split
  · exact Sim.ends_of_error (by rw [ExceptT.bind_throw]; rfl) (hkept w₁ hk₁)
  · rename_i hassign
    have hget : (ExceptT.lift (boundedStore "get_role" w.settings.gatewayTimeout
        (Sim.storeCall .getRole (Sim.getRole target))).run : ExceptT AccessError Sim _).run [] w₁ =
        .ok (.ok ((us₁.getRole target).mapError .storage)) w₁ :=
      Sim.run_exceptLift ((bounded_of_ok ((Sim.storeCall_of_clear (by rw [hclear₁]; rfl)).trans
        (Sim.getRole_run target))).trans (by rw [World.getRole, hmem₁]))
    refine Sim.ends_bind_of_ok hget ?_
    split
    · exact Sim.ends_of_error (by rw [ExceptT.bind_throw]; rfl) (hkept w₁ hk₁)
    · rename_i hguard
      -- the guard let the write through: the target is no super administrator
      have hs₁ : w₁.faults.modeOf? .setRole = none := by rw [hclear₁]; rfl
      refine Sim.ends_of_ok ((bounded_of_ok ((Sim.storeCall_of_clear hs₁).trans (Sim.modifyUser_run target _))).trans
        (by rw [World.modifyUser_of_memory hmem₁]; rfl)) ⟨by simpa using hassign, fun hsuper => ?_, ?_⟩
      · exact hguard (by rw [(us₁.getRole_eq_superAdmin_iff target).2 ((hroles₁ target).trans hsuper)]; rfl)
      · refine ⟨hk₁.1, hclear₁.trans hclear.symm, ss₁, _, rfl, fun u => ?_⟩
        rw [MemoryUsers.roleOf_modify _ target (fun u => { u with role := r }) fun _ => rfl]
        dsimp only
        split
        · rfl
        · exact hroles₁ u

end Access

/-! ## The history -/

/-- What a step grants: the provider's information obtained by a sign-in, or a role assignment
that succeeded. -/
inductive Grant where
  | signIn (info : LoginInfo)
  | assign (target : String) (role : Role)
  deriving DecidableEq, Repr

namespace Grant

/-- Whether a grant makes `u` a super administrator under the list `A`: a sign-in with
information about `u` whose address is on `A`. -/
def promotes (A : SuperAdmins) (u : String) : Grant → Bool
  | signIn i => i.userId == u && A.contains i.email
  | assign _ _ => false

/-- The role a grant gives `u`, when it is an assignment to `u`. -/
def assigns (u : String) : Grant → Option Role
  | signIn _ => none
  | assign t r => if t = u then some r else none

end Grant

/-- The role a history gives `u` under the list `A`: a super administrator once promoted, and
otherwise the role of the last assignment to `u`, or the lowest. -/
def grantedRole (A : SuperAdmins) (gs : List Grant) (u : String) : Role :=
  if gs.any (Grant.promotes A u) then .superAdmin else ((gs.filterMap (Grant.assigns u)).getLast?).getD .user

section History

variable {A : SuperAdmins} {gs : List Grant}

/-- A sign-in appended to a history promotes the user it names when its address is on the list. -/
theorem grantedRole_append_signIn (i : LoginInfo) (u : String) :
    grantedRole A (gs ++ [.signIn i]) u =
      if i.userId = u ∧ A.contains i.email = true then .superAdmin else grantedRole A gs u := by
  have hnone : [Grant.signIn i].filterMap (Grant.assigns u) = [] := rfl
  unfold grantedRole
  rw [List.any_append, List.filterMap_append, hnone, List.append_nil]
  by_cases h : i.userId = u ∧ A.contains i.email = true
  · rw [if_pos h, if_pos (by simp [Grant.promotes, h.1, h.2])]
  · have hp : [Grant.signIn i].any (Grant.promotes A u) = false := by
      simpa [Grant.promotes] using h
    rw [if_neg h, hp, Bool.or_false]

/-- An assignment appended to a history of a user that is no super administrator gives that user
the assigned role. -/
theorem grantedRole_append_assign {t : String} (r : Role) (ht : grantedRole A gs t ≠ .superAdmin)
    (u : String) : grantedRole A (gs ++ [.assign t r]) u = if t = u then r else grantedRole A gs u := by
  have hp : [Grant.assign t r].any (Grant.promotes A u) = false := rfl
  unfold grantedRole
  rw [List.any_append, hp, Bool.or_false, List.filterMap_append]
  by_cases htu : t = u
  · subst htu
    have hnot : gs.any (Grant.promotes A t) = false := by
      cases hany : gs.any (Grant.promotes A t)
      · rfl
      · exact absurd (by rw [grantedRole, if_pos hany]) ht
    have hlast : [Grant.assign t r].filterMap (Grant.assigns t) = [r] := by simp [Grant.assigns]
    rw [if_pos rfl, hnot, hlast, List.getLast?_append_of_ne_nil _ (List.cons_ne_nil r [])]
    rfl
  · have hnone : [Grant.assign t r].filterMap (Grant.assigns u) = [] := by simp [Grant.assigns, htu]
    rw [if_neg htu, hnone, List.append_nil]

/-- Where every assignment of a history gave an assignable role, the history makes a super
administrator of exactly the users it promotes. -/
theorem grantedRole_eq_superAdmin_iff (hass : ∀ t r, Grant.assign t r ∈ gs → r.isAssignable = true)
    (u : String) : grantedRole A gs u = .superAdmin ↔ gs.any (Grant.promotes A u) = true := by
  unfold grantedRole
  by_cases hp : gs.any (Grant.promotes A u) = true
  · rw [if_pos hp]
    exact ⟨fun _ => hp, fun _ => rfl⟩
  · rw [if_neg hp]
    refine ⟨fun h => ?_, fun h => absurd h hp⟩
    cases hl : (gs.filterMap (Grant.assigns u)).getLast? with
    | none =>
      rw [hl] at h
      cases h
    | some r =>
      rw [hl, Option.getD_some] at h
      -- the last assignment is one of the history's, and it gave an assignable role
      obtain ⟨g, hg, hgr⟩ := List.mem_filterMap.1 (List.mem_of_getLast? hl)
      cases g with
      | signIn i => cases hgr
      | assign t r' =>
        by_cases htu : t = u
        · rw [Grant.assigns, if_pos htu] at hgr
          cases hgr
          have hassign := hass t _ hg
          rw [h] at hassign
          cases hassign
        · rw [Grant.assigns, if_neg htu] at hgr
          cases hgr

end History

/-! ## Runs -/

/-- Whether the role assignment of `target` to `r` by the holder of session `id` succeeds from
`w`. -/
def World.assigns (w : World) (id : SessionId) (target : String) (r : Role) : Bool :=
  match (w.services.rbac.setUserRole id target r).run [] w with
  | .ok (.ok _) _ => true
  | _ => false

/-- What a step grants from the world it starts in: a sign-in, the provider's information it
obtains; a role assignment, its target and role when it succeeds. -/
def Step.grants (w : World) : Step → List Grant
  | .login code _ reply token _ => ((w.withGateway reply token).obtainedInfo? code).toList.map .signIn
  | .setUserRole s target role =>
    match Role.parse? role with
    | some r => if w.assigns (w.sessionFor s) target r then [.assign target r] else []
    | none => []
  | _ => []

namespace Step

/-- A service step is a sign-in, a role assignment, or writes no role. -/
theorem isService_cases {st : Step} (h : st.isService = true) :
    (∃ code state reply token ttl, st = .login code state reply token ttl) ∨
      (∃ s target role, st = .setUserRole s target role) ∨ st.writesNoRole = true := by
  cases st with
  | login code state reply token ttl => exact .inl ⟨_, _, _, _, _, rfl⟩
  | setUserRole s target role => exact .inr (.inl ⟨_, _, _, rfl⟩)
  | _ =>
    refine .inr (.inr ?_)
    revert h
    simp [Step.isService, Step.isPlain, Step.writesNoRole]

theorem grants_of_writesNoRole {st : Step} (h : st.writesNoRole = true) (w : World) : st.grants w = [] := by
  cases st with
  | login code state reply token ttl => simp [writesNoRole] at h
  | setUserRole s target role => simp [writesNoRole] at h
  | _ => rfl

/-- A sign-in grants nothing but information. -/
theorem not_assign_mem_grants_login (w : World) (code state : String) (reply : Option Reply)
    (token : Option String) (ttl : TtlRequest) (t : String) (r : Role) :
    Grant.assign t r ∉ (Step.login code state reply token ttl).grants w := by
  simp [grants]

end Step

theorem Sim.endOf_serve {α : Type} (enc : α → Json) (call : ExceptT AccessError Sim α) (ds : List Nat)
    (w : World) : Sim.endOf (Sim.serve enc call) ds w = Sim.endOf call.run ds w := by
  cases h : call.run ds w with
  | ok r w₁ =>
    rw [Sim.endOf_of_ok h, Sim.serve, Sim.endOf_bind_ok h]
    rfl
  | error f w₁ => rw [Sim.endOf_of_fallen h, Sim.serve, Sim.endOf_of_fallen (Sim.bind_fallen h _)]

/-- A sign-in step sets the provider's reply, signs in from the world that leaves, and labels the
new session: past the sign-in itself, it keeps what every frame keeps. -/
theorem Access.loginStep_endOf {R : World → World → Prop} [IsPreorder World R] (hR : Sim.Frame R)
    (w : World) (code state : String) (reply : Option Reply) (token : Option String) (ttl : TtlRequest) :
    R (Sim.endOf ((w.withGateway reply token).services.auth.completeOAuthToSession code state
        (ttl.resolve w.settings.sessionTtl)).run [] (w.withGateway reply token))
      (Sim.endOf (Sim.step (.login code state reply token ttl)) [] w) := by
  simp only [Sim.step]
  rw [Sim.endOf_bind_ok (Sim.setGateway_run reply token), Sim.endOf_bind_ok Sim.world_run]
  refine Sim.Keeps.endOf_bind (fun r => ?_) [] _
  split
  · exact Sim.keeps_bind (hR.keeps_label _) fun _ => Sim.keeps_pure _
  · exact Sim.keeps_pure _

/-! ## The invariant -/

/-- The roles of `w` are those the history `gs` gives under the list `A`. -/
structure RolesFollow (A : SuperAdmins) (gs : List Grant) (w : World) : Prop where
  /-- The super-admin list is `A`. -/
  superAdmins : w.settings.superAdmins = A
  /-- No fault is set. -/
  faults : w.faults = Faults.none
  /-- Every assignment of the history gave an assignable role. -/
  assignable : ∀ t r, Grant.assign t r ∈ gs → r.isAssignable = true
  /-- The directory is in memory, with the roles of the history. -/
  roles : ∃ ss us, w.stores = .memory ss us ∧ ∀ u, us.roleOf u = grantedRole A gs u

namespace RolesFollow

variable {A : SuperAdmins} {gs : List Grant} {w w' : World}

/-- A scenario in memory starts with an empty directory and an empty history. -/
theorem start (setup : Setup) (hmem : setup.layout = .memory) :
    RolesFollow setup.settings.superAdmins [] setup.world where
  superAdmins := rfl
  faults := rfl
  assignable := fun _ _ h => nomatch h
  roles := ⟨MemorySessions.empty, MemoryUsers.empty, by simp [Setup.world, hmem], fun _ => rfl⟩

/-- A world with the settings and faults of `w` whose roles are those of a longer history. -/
theorem of_hasRoles (h : RolesFollow A gs w) {gs' : List Grant} {role : String → Role}
    (hw : w.HasRoles w' role) (hrole : ∀ u, role u = grantedRole A gs' u)
    (hass : ∀ t r, Grant.assign t r ∈ gs' → r.isAssignable = true) : RolesFollow A gs' w' := by
  obtain ⟨hset, hf, ss', us', hmem', hroles'⟩ := hw
  refine ⟨?_, hf.trans h.faults, hass, ss', us', hmem', fun u => (hroles' u).trans (hrole u)⟩
  rw [hset]
  exact h.superAdmins

theorem keepsRoles (h : RolesFollow A gs w) (hk : World.KeepsRoles w w') : RolesFollow A gs w' := by
  obtain ⟨ss, us, hmem, hroles⟩ := h.roles
  exact h.of_hasRoles (World.hasRoles_of_keepsRoles hmem hk) hroles h.assignable

/-- A sign-in step appends the information it obtains, and promotes the user it names when the
address is on the list. -/
theorem signIn (h : RolesFollow A gs w) (code state : String) (reply : Option Reply)
    (token : Option String) (ttl : TtlRequest) :
    RolesFollow A (gs ++ (Step.login code state reply token ttl).grants w)
      (Sim.runTop (Sim.step (.login code state reply token ttl)) w).2 := by
  obtain ⟨ss, us, hmem, hroles⟩ := h.roles
  -- setting the provider's reply moves no store and no fault
  have hmem₀ : (w.withGateway reply token).stores = .memory ss us := hmem
  have hsign := Access.signIn_roles hmem₀ h.faults code state (ttl.resolve w.settings.sessionTtl)
  rw [Sim.runTop_snd]
  refine h.of_hasRoles (hsign.keepsRoles (Access.loginStep_endOf World.keepsRoles_frame w code state reply token ttl))
    (fun u => ?_) fun t r ht => ?_
  · show _ = grantedRole A (gs ++ ((w.withGateway reply token).obtainedInfo? code).toList.map Grant.signIn) u
    cases hi : (w.withGateway reply token).obtainedInfo? code with
    | none =>
      rw [Option.toList_none, List.map_nil, List.append_nil]
      exact hroles u
    | some i =>
      rw [Option.toList_some, List.map_singleton, grantedRole_append_signIn, ← hroles u, ← h.superAdmins]
      rfl
  · rcases List.mem_append.1 ht with ht | ht
    · exact h.assignable t r ht
    · exact absurd ht (Step.not_assign_mem_grants_login w code state reply token ttl t r)

/-- A role assignment step appends its assignment when it succeeds, and the target then holds the
role; otherwise no role changes. -/
theorem assign (h : RolesFollow A gs w) (s target role : String) :
    RolesFollow A (gs ++ (Step.setUserRole s target role).grants w)
      (Sim.runTop (Sim.step (.setUserRole s target role)) w).2 := by
  obtain ⟨ss, us, hmem, hroles⟩ := h.roles
  rw [Sim.runTop_snd]
  simp only [Sim.step, Sim.withServices, Step.grants]
  rw [Sim.endOf_bind_ok Sim.world_run, Sim.endOf_bind_ok (Sim.sessionOf_run s)]
  cases hp : Role.parse? role with
  | none =>
    -- an unknown role is turned down before any call
    show RolesFollow A (gs ++ []) w
    rw [List.append_nil]
    exact h
  | some r =>
    dsimp only
    rw [Sim.endOf_serve]
    have hends := Access.setUserRole_roles hmem h.faults (w.sessionFor s) target r
    unfold Sim.Ends at hends
    cases hrun : (w.services.rbac.setUserRole (w.sessionFor s) target r).run [] w with
    | ok res w' =>
      rw [hrun] at hends
      rw [Sim.endOf_of_ok hrun]
      cases res with
      | ok u =>
        -- the assignment went through: it is granted, and the target holds the role
        obtain ⟨hassign, hnot, hw'⟩ := hends
        have hgrant : w.assigns (w.sessionFor s) target r = true := by rw [World.assigns, hrun]
        rw [if_pos hgrant]
        have htarget : grantedRole A gs target ≠ .superAdmin := by rwa [← hroles target]
        refine h.of_hasRoles hw' (fun u => ?_) fun t r' ht => ?_
        · rw [grantedRole_append_assign r htarget, ← hroles u]
        · rcases List.mem_append.1 ht with ht | ht
          · exact h.assignable t r' ht
          · cases List.mem_singleton.1 ht
            exact hassign
      | error e =>
        have hgrant : w.assigns (w.sessionFor s) target r = false := by rw [World.assigns, hrun]
        rw [if_neg (by simp [hgrant]), List.append_nil]
        exact h.of_hasRoles hends hroles h.assignable
    | error f w' =>
      rw [hrun] at hends
      have hgrant : w.assigns (w.sessionFor s) target r = false := by rw [World.assigns, hrun]
      rw [Sim.endOf_of_fallen hrun, if_neg (by simp [hgrant]), List.append_nil]
      exact h.of_hasRoles hends hroles h.assignable

/-- Every service step keeps the roles that the history gives, with the step's grants
appended. -/
theorem step (h : RolesFollow A gs w) {st : Step} (hst : st.isService = true) :
    RolesFollow A (gs ++ st.grants w) (Sim.runTop (Sim.step st) w).2 := by
  rcases Step.isService_cases hst with ⟨code, state, reply, token, ttl, rfl⟩ | ⟨s, target, role, rfl⟩ | hno
  · exact h.signIn code state reply token ttl
  · exact h.assign s target role
  · rw [Step.grants_of_writesNoRole hno, List.append_nil, Sim.runTop_snd]
    exact h.keepsRoles ((Access.keeps_step hno).endOf [] w)

end RolesFollow

/-- **Who holds which role.** Along any run of service operations from a scenario in memory
(whose directory starts empty), in every state it reaches: a user is a super administrator
exactly when an earlier sign-in obtained the provider's information about that user with an
address on the super-admin list, and otherwise holds the role of the last role assignment to it
that succeeded, or the lowest role when there was none. -/
theorem roles_follow_grants (setup : Setup) (hmem : setup.layout = .memory) (steps : List Step)
    (hsvc : ∀ st ∈ steps, st.isService = true) :
    let gs := setup.world.trace Step.grants steps
    ∃ ss us, (setup.world.afterSteps steps).stores = .memory ss us ∧ ∀ u,
      (us.roleOf u = .superAdmin ↔
        ∃ i, Grant.signIn i ∈ gs ∧ i.userId = u ∧ setup.settings.superAdmins.contains i.email = true) ∧
      (us.roleOf u ≠ .superAdmin → us.roleOf u = ((gs.filterMap (Grant.assigns u)).getLast?).getD .user) := by
  intro gs
  have hrun : RolesFollow setup.settings.superAdmins ([] ++ gs) (setup.world.afterSteps steps) :=
    World.afterSteps_of_step (fun _ _ _ hst h => h.step hst) (RolesFollow.start setup hmem) hsvc
  rw [List.nil_append] at hrun
  obtain ⟨ss, us, hst, hroles⟩ := hrun.roles
  refine ⟨ss, us, hst, fun u => ⟨?_, fun hne => ?_⟩⟩
  · rw [hroles u, grantedRole_eq_superAdmin_iff hrun.assignable, List.any_eq_true]
    constructor
    · rintro ⟨g, hg, hp⟩
      cases g with
      | signIn i =>
        simp only [Grant.promotes, Bool.and_eq_true, beq_iff_eq] at hp
        exact ⟨i, hg, hp.1, hp.2⟩
      | assign t r => cases hp
    · rintro ⟨i, hi, rfl, hA⟩
      exact ⟨.signIn i, hi, by simp [Grant.promotes, hA]⟩
  · -- not promoted: the role is the last assignment's
    rw [hroles u] at hne ⊢
    unfold grantedRole at hne ⊢
    rw [if_neg fun hp => hne (if_pos hp)]

/-- A sign-in of a user whose address is on the list, then a minute of the clock. -/
theorem roles_follow_grants_after_promotion :
    let setup : Setup := ⟨.memory, { AccessSettings.default with superAdmins := ⟨["u1@example.com"]⟩ }, "",
      IdentityFake.defaultReply, .absent, "tok"⟩
    let steps := [Step.login "code" "state" none none .none, Step.advance 60 0]
    setup.layout = .memory ∧ (∀ st ∈ steps, st.isService = true) ∧
    let gs := setup.world.trace Step.grants steps
    ∃ ss us, (setup.world.afterSteps steps).stores = .memory ss us ∧ ∀ u,
      (us.roleOf u = .superAdmin ↔
        ∃ i, Grant.signIn i ∈ gs ∧ i.userId = u ∧ setup.settings.superAdmins.contains i.email = true) ∧
      (us.roleOf u ≠ .superAdmin → us.roleOf u = ((gs.filterMap (Grant.assigns u)).getLast?).getD .user) :=
  ⟨rfl, by decide, roles_follow_grants _ rfl _ (by decide)⟩

end Warden
