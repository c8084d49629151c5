import Warden.Proofs.Frame

/-!
# Authorization comes first

Every guarded use case of the access services starts by authorizing its caller for its
operation, before it looks at its other arguments or calls anything. The order is stated here
once for all of them: a use case whose authorization fails answers that failure, in the world
the authorization left, whatever else it was asked (`UseCase.call_of_refused`). A caller who is
not signed in, or not allowed, is told so before any request of theirs is judged, and no
catalog or issuer call is made on their behalf.

The authorization changes no more than the stores and the clocks: a lookup drops the session
it finds expired, the caller's missing record is created, and a call that waits moves the
virtual clock (`World.StoresAndClocks`).
-/

namespace Warden

/-- A guarded use case of the access services, with its arguments beyond the caller's session. -/
inductive UseCase where
  | me
  | updateNickname (nickname : String)
  | listUsers (limit offset : Option Int)
  | setUserRole (target : String) (role : Role)
  | listProviderConfigs
  | upsertProviderConfig (config : ProviderConfig)
  | deleteProviderConfig (provider : Provider)
  | listModels
  | upsertModel (config : ModelConfig)
  | deleteModel (modelId : String)
  | issueToken

namespace UseCase

/-- The operation a use case is authorized for. -/
def operation : UseCase → Operation
  | me => .getOwnProfile
  | updateNickname _ => .updateOwnProfile
  | listUsers _ _ => .listUsers
  | setUserRole _ _ => .assignRole
  | listProviderConfigs => .listProviderConfigs
  | upsertProviderConfig _ => .upsertProviderConfig
  | deleteProviderConfig _ => .deleteProviderConfig
  | listModels => .listModels
  | upsertModel _ => .upsertModel
  | deleteModel _ => .deleteModel
  | issueToken => .issueToken

/-- What a use case answers. -/
def Answer : UseCase → Type
  | me | updateNickname _ => Me
  | listUsers _ _ => List AdminUser
  | setUserRole _ _ | upsertProviderConfig _ | deleteProviderConfig _ | deleteModel _ => Unit
  | listProviderConfigs => List ProviderView
  | listModels => List ModelSpec
  | upsertModel _ => String
  | issueToken => IssuedToken

/-- A use case called by the holder of a session, through the services of a world. -/
def call (svc : Services) (id : SessionId) : (uc : UseCase) → ExceptT AccessError Sim uc.Answer
  | me => svc.rbac.me id
  | updateNickname n => svc.rbac.updateNickname id n
  | listUsers l o => svc.rbac.listUsers id l o
  | setUserRole t r => svc.rbac.setUserRole id t r
  | listProviderConfigs => svc.catalog.listProviderConfigs id
  | upsertProviderConfig c => svc.catalog.upsertProviderConfig id c
  | deleteProviderConfig p => svc.catalog.deleteProviderConfig id p
  | listModels => svc.catalog.listModels id
  | upsertModel c => svc.catalog.upsertModel id c
  | deleteModel m => svc.catalog.deleteModel id m
  | issueToken => svc.tokens.issueToken id

/-- Every use case is its authorization followed by the rest of its work. -/
theorem call_eq_bind (w : World) (id : SessionId) (uc : UseCase) :
    ∃ k : Access.Principal → ExceptT AccessError Sim uc.Answer,
      uc.call w.services id = (w.services.auth.policy.authorize id uc.operation) >>= k := by
  cases uc <;> exact ⟨_, rfl⟩

variable {ds : List Nat} {w w' : World} {id : SessionId} {e : AccessError}

/-- A use case whose authorization fails answers that failure, in the world the authorization
left. -/
theorem call_of_refused (uc : UseCase)
    (h : (w.services.auth.policy.authorize id uc.operation).run ds w = .ok (.error e) w') :
    (uc.call w.services id).run ds w = .ok (.error e) w' := by
  obtain ⟨k, hk⟩ := call_eq_bind w id uc
  rw [hk]
  exact Sim.run_bind_error h k

end UseCase

/-! ## What the authorization changes -/

namespace World

/-- `w'` is `w` with other stores and clocks, and nothing else changed. -/
def StoresAndClocks (w w' : World) : Prop :=
  ∃ stores wall clock, w' = { w with stores := stores, wall := wall, clock := clock }

instance : IsPreorder World StoresAndClocks where
  refl w := ⟨w.stores, w.wall, w.clock, rfl⟩
  trans w₁ w₂ w₃ h₁ h₂ := by
    obtain ⟨st₂, t₂, c₂, rfl⟩ := h₁
    obtain ⟨st₃, t₃, c₃, rfl⟩ := h₂
    exact ⟨st₃, t₃, c₃, rfl⟩

theorem storesAndClocks_of_writesOnly {w w' : World} (h : WritesOnly w w') : StoresAndClocks w w' := by
  obtain ⟨stores, wall, rfl⟩ := h
  exact ⟨stores, wall, w.clock, rfl⟩

/-- The policy's calls change only the stores and the clocks. -/
theorem storesAndClocks_policyFrame : Sim.PolicyFrame StoresAndClocks where
  forward w c _ := ⟨w.stores, w.wall, c, rfl⟩
  lookup w id := storesAndClocks_of_writesOnly (getSession_writesOnly w id)
  creation w id := storesAndClocks_of_writesOnly (ensureUser_writesOnly w id)

end World

/-! ## Authorization comes first -/

/-- **Authorization comes first.** Whatever guarded use case is called, with whatever other
arguments, from whatever world and under whatever deadlines: when the authorization of the
caller for the use case's operation fails, the use case answers that same failure and leaves the
world the authorization left, which differs from the one it started in only in its stores and
clocks. So an unauthenticated or forbidden caller is answered so before any invalid role,
nickname, model or provider is noticed and before any gateway call, and nothing reaches the
catalog or the issuer. -/
theorem refused_call_answers_refusal (uc : UseCase) (w : World) (id : SessionId) (ds : List Nat)
    (e : AccessError) (w' : World)
    (h : (w.services.auth.policy.authorize id uc.operation).run ds w = .ok (.error e) w') :
    (uc.call w.services id).run ds w = .ok (.error e) w' ∧
      ∃ stores wall clock, w' = { w with stores := stores, wall := wall, clock := clock } := by
  refine ⟨uc.call_of_refused h, ?_⟩
  have hkeeps := Access.keeps_authorize World.storesAndClocks_policyFrame w.settings.gatewayTimeout id
    uc.operation ds w
  rw [← World.services_policy w, h] at hkeeps
  exact hkeeps

/-- A caller without a session asks to add a model with a blank name at its provider: the
answer is that the caller is unauthenticated, not that the name is blank, and nothing moved. -/
theorem refused_call_answers_refusal_without_session :
    let w := Setup.world ⟨.memory, AccessSettings.default, "", IdentityFake.defaultReply, .absent, "tok"⟩
    let uc := UseCase.upsertModel ⟨.dashscope, [], "  "⟩
    (w.services.auth.policy.authorize ⟨""⟩ uc.operation).run [] w = .ok (.error .unauthenticated) w ∧
      (uc.call w.services ⟨""⟩).run [] w = .ok (.error .unauthenticated) w ∧
      ∃ stores wall clock, w = { w with stores := stores, wall := wall, clock := clock } :=
  ⟨rfl, refused_call_answers_refusal _ _ _ _ _ _ rfl⟩

end Warden
