import Warden.Proofs.FailedSignIn
import Warden.Proofs.Frame

/-!
# Who holds which role

Two things in the access services write a role: a sign-in that obtains the provider's
information about an address on the super-admin list promotes that user, and a role assignment
that succeeds sets the role it asks for. Every other write keeps each user's role, and a user it
creates gets the lowest role.

## Keeping the roles

`World.KeepsRoles w w'` says that `w'` has the settings and the faults of `w` and, in memory,
keeps each user of `w` with its role, a new user holding the lowest role. It is a preorder, so
`Sim.Keeps World.KeepsRoles` goes through every bind, and it holds of every backend call but the
role write. Every service but the sign-in and the role assignment is built from those calls
alone, and keeps the roles whatever its deadlines and faults.

## The two writers

A role assignment that succeeds was made by a super administrator, asks for `user` or `admin`,
and finds its target without the super-administrator role; whatever else it does keeps the roles
(`setUserRole_ends`). A sign-in in a memory world without faults writes what
`MemoryUsers.signIn` says.
-/

namespace Warden

/-! ## Keeping the roles -/

namespace MemoryUsers

variable (d : MemoryUsers)

/-- The role of an id: its user's, and the lowest for an id without a user. -/
def roleOf (u : String) : Role := ((d.find? u).map User.role).getD .user

theorem roleOf_of_find? {u : String} {x : User} (h : d.find? u = some x) : d.roleOf u = x.role := by
  rw [roleOf, h]
  rfl

theorem roleOf_of_missing {u : String} (h : d.find? u = none) : d.roleOf u = .user := by
  rw [roleOf, h]
  rfl

/-- The directory answers `super_admin` for an id exactly when the id holds that role. -/
theorem getRole_eq_superAdmin_iff (u : String) : d.getRole u = .ok .superAdmin ↔ d.roleOf u = .superAdmin := by
  cases h : d.find? u with
  | none =>
    rw [roleOf_of_missing d h, getRole, h]
    constructor <;> intro h <;> cases h
  | some x => rw [roleOf_of_find? d h, getRole_of_find? d h, Except.ok.injEq]

theorem roleOf_ensureExists (id : String) (now : Timestamp) (u : String) :
    (d.ensureExists id now).roleOf u = d.roleOf u := by
  rw [roleOf, find?_ensureExists]
  split
  · subst u
    exact d.entry_role id now
  · rfl

@[simp] theorem roleOf_saveLoginInfo (info : LoginInfo) (u : String) :
    (d.saveLoginInfo info).roleOf u = d.roleOf u := rfl

theorem roleOf_modify (id : String) (f : User → User) (hid : ∀ u, (f u).id = u.id) (now : Timestamp)
    (u : String) : (d.modify id f now).roleOf u = if id = u then (f (d.entry id now)).role else d.roleOf u := by
  rw [roleOf, find?_modify d id f now hid]
  split <;> rfl

/-- A sign-in as `uid` changes one role at most: with information whose address is on `A`, `uid`
becomes a super administrator. -/
theorem roleOf_signIn (A : SuperAdmins) (uid : String) (info : Option LoginInfo) (now later : Timestamp)
    (u : String) :
    (d.signIn A uid info now later).roleOf u =
      match info with
      | some i => if uid = u ∧ A.contains i.email = true then .superAdmin else d.roleOf u
      | none => d.roleOf u := by
  unfold signIn
  cases info with
  | none => exact d.roleOf_ensureExists uid now u
  | some i =>
    dsimp only
    by_cases hA : A.contains i.email = true
    · rw [if_pos hA, roleOf_modify _ uid (fun u => { u with role := .superAdmin }) fun _ => rfl]
      by_cases hu : uid = u
      · rw [if_pos hu, if_pos ⟨hu, hA⟩]
      · rw [if_neg hu, if_neg fun h => hu h.1, roleOf_saveLoginInfo, roleOf_ensureExists]
    · rw [if_neg hA, if_neg fun h => hA h.2, roleOf_saveLoginInfo, roleOf_ensureExists]

/-- `d'` keeps the roles of `d`: every id holds the same role in both. -/
def KeepsRoles (d d' : MemoryUsers) : Prop := ∀ u, d'.roleOf u = d.roleOf u

theorem KeepsRoles.refl : d.KeepsRoles d := fun _ => rfl

theorem KeepsRoles.trans {d₁ d₂ d₃ : MemoryUsers} (h₁ : d₁.KeepsRoles d₂) (h₂ : d₂.KeepsRoles d₃) :
    d₁.KeepsRoles d₃ :=
  fun u => (h₂ u).trans (h₁ u)

theorem keepsRoles_ensureExists (id : String) (now : Timestamp) : d.KeepsRoles (d.ensureExists id now) :=
  d.roleOf_ensureExists id now

theorem keepsRoles_saveLoginInfo (info : LoginInfo) : d.KeepsRoles (d.saveLoginInfo info) :=
  fun _ => rfl

/-- A change of a user that keeps its id and its role keeps every role. -/
theorem keepsRoles_modify (id : String) {f : User → User} (hid : ∀ u, (f u).id = u.id)
    (hrole : ∀ u, (f u).role = u.role) (now : Timestamp) : d.KeepsRoles (d.modify id f now) := by
  intro u
  rw [roleOf_modify d id f hid now]
  split
  · subst u
    rw [hrole]
    exact d.entry_role id now
  · rfl

end MemoryUsers

namespace World

/-- `w'` keeps the roles of `w`: it has the settings and the faults of `w`, and when `w` is in
memory, so is `w'`, with a directory that keeps the roles of the directory of `w`. -/
def KeepsRoles (w w' : World) : Prop :=
  w'.settings = w.settings ∧ w'.faults = w.faults ∧
    ∀ ss us, w.stores = .memory ss us → ∃ ss' us', w'.stores = .memory ss' us' ∧ us.KeepsRoles us'

instance : IsPreorder World KeepsRoles where
  refl w := ⟨rfl, rfl, fun ss us h => ⟨ss, us, h, MemoryUsers.KeepsRoles.refl us⟩⟩
  trans w₁ w₂ w₃ h₁ h₂ := by
    refine ⟨h₂.1.trans h₁.1, h₂.2.1.trans h₁.2.1, fun ss us h => ?_⟩
    obtain ⟨ss₂, us₂, h₂s, hk₁⟩ := h₁.2.2 ss us h
    obtain ⟨ss₃, us₃, h₃s, hk₂⟩ := h₂.2.2 ss₂ us₂ h₂s
    exact ⟨ss₃, us₃, h₃s, hk₁.trans hk₂⟩

variable {w : World}

/-- A change of the world that leaves the directory alone keeps the roles. -/
theorem keepsRoles_of_users {w' : World} (hset : w'.settings = w.settings) (hf : w'.faults = w.faults)
    (hus : ∀ ss us, w.stores = .memory ss us → ∃ ss', w'.stores = .memory ss' us) : KeepsRoles w w' := by
  refine ⟨hset, hf, fun ss us h => ?_⟩
  obtain ⟨ss', h'⟩ := hus ss us h
  exact ⟨ss', us, h', MemoryUsers.KeepsRoles.refl us⟩

theorem keepsRoles_clock (w : World) (c : Nat) : KeepsRoles w { w with clock := c } :=
  refl_of KeepsRoles w

theorem keepsRoles_getSession (w : World) (id : SessionId) : KeepsRoles w (w.getSession id).2 := by
  refine keepsRoles_of_users (getSession_writesOnly w id).settings (getSession_writesOnly w id).faults
    fun ss us h => ?_
  rw [getSession_of_memory h]
  exact ⟨_, rfl⟩

theorem keepsRoles_ensureUser (w : World) (id : String) : KeepsRoles w (w.ensureUser id).2 := by
  refine ⟨(ensureUser_writesOnly w id).settings, (ensureUser_writesOnly w id).faults, fun ss us h => ?_⟩
  rw [ensureUser_of_memory h]
  exact ⟨ss, _, rfl, us.keepsRoles_ensureExists id w.wall⟩

theorem keepsRoles_saveLoginInfo (w : World) (info : LoginInfo) :
    KeepsRoles w (w.saveLoginInfo info).2 := by
  refine ⟨(saveLoginInfo_writesOnly w info).settings, (saveLoginInfo_writesOnly w info).faults,
    fun ss us h => ?_⟩
  rw [saveLoginInfo_of_memory h]
  exact ⟨ss, _, rfl, us.keepsRoles_saveLoginInfo info⟩

/-- A change of a user that keeps its id and its role keeps every role. -/
theorem keepsRoles_modifyUser (w : World) (id : String) {f : User → User} (hid : ∀ u, (f u).id = u.id)
    (hrole : ∀ u, (f u).role = u.role) : KeepsRoles w (w.modifyUser id f).2 := by
  refine ⟨(modifyUser_writesOnly w id f).settings, (modifyUser_writesOnly w id f).faults,
    fun ss us h => ?_⟩
  rw [modifyUser_of_memory h]
  exact ⟨ss, _, rfl, us.keepsRoles_modify id hid hrole w.wall⟩

theorem keepsRoles_saveSession (w : World) (id : SessionId) (s : Session) (ttl : Duration) :
    KeepsRoles w (w.saveSession id s ttl).2 := by
  refine keepsRoles_of_users (saveSession_writesOnly w id s ttl).settings
    (saveSession_writesOnly w id s ttl).faults fun ss us h => ?_
  rw [saveSession_of_memory h]
  cases ss.save id.text s ttl w.clock with
  | ok ss' => exact ⟨ss', rfl⟩
  | error e => exact ⟨ss, h⟩

/-! ### Worlds with given roles -/

/-- `w'` has the settings and the faults of `w`, and a directory in memory whose roles are
`role`. -/
def HasRoles (w w' : World) (role : String → Role) : Prop :=
  w'.settings = w.settings ∧ w'.faults = w.faults ∧
    ∃ ss' us', w'.stores = .memory ss' us' ∧ ∀ u, us'.roleOf u = role u

variable {w₁ w₂ : World} {ss : MemorySessions} {us : MemoryUsers}

theorem hasRoles_of_keepsRoles (hmem : w.stores = .memory ss us) (h : KeepsRoles w w₁) :
    HasRoles w w₁ us.roleOf := by
  obtain ⟨ss₁, us₁, hmem₁, hk⟩ := h.2.2 ss us hmem
  exact ⟨h.1, h.2.1, ss₁, us₁, hmem₁, hk⟩

theorem HasRoles.keepsRoles {role : String → Role} (h : HasRoles w w₁ role) (hk : KeepsRoles w₁ w₂) :
    HasRoles w w₂ role := by
  obtain ⟨hset, hf, ss₁, us₁, hmem₁, hrole⟩ := h
  obtain ⟨ss₂, us₂, hmem₂, hk₂⟩ := hk.2.2 ss₁ us₁ hmem₁
  exact ⟨hk.1.trans hset, hk.2.1.trans hf, ss₂, us₂, hmem₂, fun u => (hk₂ u).trans (hrole u)⟩

/-- Every primitive call of the services but the role write keeps the roles. -/
theorem keepsRoles_frame : Sim.Frame KeepsRoles where
  forward w c _ := keepsRoles_clock w c
  lookup := keepsRoles_getSession
  creation := keepsRoles_ensureUser
  unseen _ _ hset hf _ _ hst := keepsRoles_of_users hset hf fun ss _ h => ⟨ss, hst.trans h⟩
  nickname w id _ := w.keepsRoles_modifyUser id (fun _ => rfl) fun _ => rfl

end World

/-! ### The calls of a sign-in and a sign-out -/

namespace Sim

theorem keeps_deleteSession (id : SessionId) : Keeps World.KeepsRoles (deleteSession id) := by
  intro ds w
  unfold deleteSession
  rw [bind_ok world_run]
  cases h : w.stores with
  | memory ss us =>
    exact World.keepsRoles_of_users rfl rfl fun _ _ h₀ => ⟨ss.erase id.text, by rw [h] at h₀; cases h₀; rfl⟩
  | durable ss us sep =>
    exact World.keepsRoles_of_users rfl rfl fun _ _ h₀ => absurd (h.symm.trans h₀) (by simp)

theorem keeps_saveSession (id : SessionId) (s : Session) (ttl : Duration) :
    Keeps World.KeepsRoles (saveSession id s ttl) :=
  keeps_of_run (fun _ _ => ⟨_, saveSession_run id s ttl⟩) fun w => w.keepsRoles_saveSession id s ttl

theorem keeps_freshSessionId : Keeps World.KeepsRoles freshSessionId :=
  keeps_of_run (fun _ _ => ⟨_, freshSessionId_run⟩) fun _ =>
    World.keepsRoles_of_users rfl rfl fun ss _ h => ⟨ss, h⟩

end Sim

namespace Access

/-- Opening the session of a sign-in draws an id and saves the session: no role changes. -/
theorem keeps_openSession (src : UidSource) (s : AccessSettings) (tokens : TokenPair) (ttl : Duration)
    (uid : String) : Sim.Keeps World.KeepsRoles ((worldAuth src s).openSession tokens ttl uid).run :=
  Sim.keeps_exceptBind (Sim.keeps_exceptLift Sim.keeps_freshSessionId) fun _ =>
    Sim.keeps_exceptBind (World.keepsRoles_frame.toPolicyFrame.keeps_boundedStore
      (Sim.keeps_saveSession _ _ _) _ _ _) fun _ => Sim.keeps_exceptPure _

end Access

/-! ## The steps that write no role -/

/-- The service steps that write no role: signing out, the profile and the nickname, the listing,
the catalog, tokens, and moving the virtual clock. -/
def Step.writesNoRole : Step → Bool
  | .logout _ | .me _ | .updateNickname _ _ | .listUsers _ _ _ | .listProviderConfigs _
  | .upsertProviderConfig _ _ _ _ _ | .deleteProviderConfig _ _ | .listModels _
  | .upsertModel _ _ _ _ | .deleteModel _ _ | .issueToken _ | .advance _ _ => true
  | _ => false

namespace Sim

variable {ds : List Nat} {w : World}

theorem sessionOf_run (s : String) : sessionOf s ds w = .ok (w.sessionFor s) w := rfl

theorem setGateway_run (reply : Option Reply) (token : Option String) :
    setGateway reply token ds w = .ok () (w.withGateway reply token) := rfl

end Sim

namespace Access

/-- Every service step that writes no role keeps the roles, whatever its deadlines and faults. -/
theorem keeps_step {st : Step} (h : st.writesNoRole = true) : Sim.Keeps World.KeepsRoles (Sim.step st) := by
  by_cases hout : ∃ s, st = .logout s
  · obtain ⟨s, rfl⟩ := hout
    exact keeps_logoutStep World.keepsRoles_frame Sim.keeps_deleteSession s
  · -- the other steps that write no role are the plain ones
    refine keeps_plainStep World.keepsRoles_frame ?_
    cases st <;> simp_all [Step.writesNoRole, Step.isPlain]

end Access

end Warden
