import Warden.Proofs.Policy

/-!
# What the services keep

Most of what the access services do to a world is done by a few primitive calls: a session
lookup, which drops the session it finds expired; the creation of a user; a change of nickname;
and the moves of the virtual clock while a call waits. All else a service touches (the answers
of the simulated provider, catalog and issuer, the labels of sessions, the count of token
readings) is out of sight of the stores.

## Frames

`Sim.Frame R` collects the facts that a relation `R` between worlds holds across each of those
primitive steps. For a preorder `R` with a frame, every service but the sign-in, the sign-out
and the role assignment keeps `R`, whatever its deadlines and faults, and so does every scenario
step that runs one of them (`Step.isPlain`). The sign-out keeps `R` when the session delete
does, and the role assignment when the role write does. The policy alone needs less: a lookup,
a creation and the clock (`Sim.PolicyFrame`).

Each property of runs is then one relation and its frame: the roles a run keeps, the sessions
it drops, the records it creates. The services are taken apart once, here.
-/

namespace Warden

namespace Sim

/-- What the access policy's calls need of a relation: it holds across a forward move of the
virtual clock, a session lookup and the creation of a user. -/
structure PolicyFrame (R : World → World → Prop) : Prop where
  forward : ∀ (w : World) (c : Nat), w.clock ≤ c → R w { w with clock := c }
  lookup : ∀ (w : World) (id : SessionId), R w (w.getSession id).2
  creation : ∀ (w : World) (id : String), R w (w.ensureUser id).2

/-- What the services' calls need of a relation: the policy's, a change of nickname, and any
change out of sight of the stores, the clock, the settings, the faults and the session ids. -/
structure Frame (R : World → World → Prop) : Prop extends PolicyFrame R where
  unseen : ∀ w w' : World, w'.settings = w.settings → w'.faults = w.faults → w'.clock = w.clock →
    w'.idsIssued = w.idsIssued → w'.stores = w.stores → R w w'
  nickname : ∀ (w : World) (id nick : String),
    R w (w.modifyUser id fun u => { u with nickname := nick }).2

variable {R : World → World → Prop}

/-! ## The primitive calls -/

theorem PolicyFrame.keeps_getSession (hR : PolicyFrame R) (id : SessionId) : Keeps R (getSession id) :=
  keeps_of_run (fun _ _ => ⟨_, getSession_run id⟩) fun w => hR.lookup w id

theorem PolicyFrame.keeps_ensureUser (hR : PolicyFrame R) (id : String) : Keeps R (ensureUser id) :=
  keeps_of_run (fun _ _ => ⟨_, ensureUser_run id⟩) fun w => hR.creation w id

/-- A role write keeps what the change of the user's role keeps. -/
theorem keeps_setRole (hrole : ∀ (w : World) (id : String) (r : Role),
      R w (w.modifyUser id fun u => { u with role := r }).2) (id : String) (r : Role) :
    Keeps R (setRole id r) :=
  keeps_of_run (fun _ _ => ⟨_, modifyUser_run id _⟩) fun w => hrole w id r

theorem Frame.keeps_setNickname (hR : Frame R) (id nick : String) : Keeps R (setNickname id nick) :=
  keeps_of_run (fun _ _ => ⟨_, modifyUser_run id _⟩) fun w => hR.nickname w id nick

/-- A change of the world out of sight of the stores keeps `R`. -/
theorem Frame.keeps_unseen (hR : Frame R) {f : World → World} (hf : ∀ w, (f w).settings = w.settings ∧
    (f w).faults = w.faults ∧ (f w).clock = w.clock ∧ (f w).idsIssued = w.idsIssued ∧
    (f w).stores = w.stores) : Keeps R (change f) :=
  keeps_change fun w => hR.unseen w (f w) (hf w).1 (hf w).2.1 (hf w).2.2.1 (hf w).2.2.2.1 (hf w).2.2.2.2

variable [IsPreorder World R]

/-- A store call of the services, under its deadline and behind its faults, keeps what the call
keeps. -/
theorem PolicyFrame.keeps_boundedStore (hR : PolicyFrame R) {α : Type} {call : Sim (Except StoreError α)}
    (hcall : Keeps R call) (target : Target) (op : String) (t : Duration) :
    Keeps R (Access.boundedStore op t (storeCall target call)).run :=
  Access.keeps_bounded (keeps_storeCall hR.forward hcall target) op t _

theorem keeps_getRole (id : String) : Keeps R (getRole id) :=
  keeps_of_run (fun _ _ => ⟨_, getRole_run id⟩) (refl_of R)

theorem keeps_listUsers (p : Page) : Keeps R (listUsers p) := by
  refine keeps_bind keeps_world fun w => ?_
  split <;> exact keeps_pure _

theorem keeps_getMe (id : String) : Keeps R (getMe id) := by
  refine keeps_bind keeps_world fun w => ?_
  split <;> exact keeps_pure _

theorem keeps_readWorld {α : Type} (f : World → α) : Keeps R (do return f (← world)) :=
  keeps_bind keeps_world fun _ => keeps_pure _

theorem keeps_sessionOf (s : String) : Keeps R (sessionOf s) :=
  keeps_of_run (fun _ _ => ⟨_, rfl⟩) (refl_of R)

theorem keeps_virtualClock : Keeps R virtualClock := by
  refine keeps_bind keeps_world fun w => ?_
  split <;> exact keeps_pure _

variable (hR : Frame R)
include hR

theorem Frame.keeps_adminWrite {α : Type} (f : AdminFake → AdminFake) (answer : α) :
    Keeps R (adminWrite f answer) :=
  keeps_bind (hR.keeps_unseen fun _ => ⟨rfl, rfl, rfl, rfl, rfl⟩) fun _ => keeps_pure _

theorem Frame.keeps_issue (subject : String) (ttl : Int) (models : List String) :
    Keeps R (issue subject ttl models) :=
  keeps_bind (hR.keeps_unseen fun _ => ⟨rfl, rfl, rfl, rfl, rfl⟩) fun _ => keeps_pure _

theorem Frame.keeps_label (id : String) : Keeps R (label id) := by
  intro ds w
  rw [label, bind_ok world_run]
  cases w.labelled.idxOf? id with
  | some i => exact refl_of R w
  | none => exact hR.unseen w { w with labelled := w.labelled ++ [id] } rfl rfl rfl rfl rfl

omit [IsPreorder World R] in
theorem Frame.keeps_setGateway (reply : Option Reply) (token : Option String) :
    Keeps R (setGateway reply token) :=
  hR.keeps_unseen fun _ => ⟨rfl, rfl, rfl, rfl, rfl⟩

end Sim

/-! ## The policy -/

namespace Access

variable {R : World → World → Prop} [IsPreorder World R]

section Policy

variable (hR : Sim.PolicyFrame R)
include hR

theorem keeps_authenticate (t : Duration) (id : SessionId) :
    Sim.Keeps R ((worldPolicy t).authenticate id).run := by
  have hlook : Sim.Keeps R (tryCatch (do
      return (← boundedStore "session_get" (worldPolicy t).timeout ((worldPolicy t).sessions.get id)).userId)
      fun _ => throw .unauthenticated : ExceptT AccessError Sim String).run :=
    Sim.keeps_tryCatch (Sim.keeps_exceptBind (hR.keeps_boundedStore (hR.keeps_getSession id) _ _ _)
      fun _ => Sim.keeps_exceptPure _) fun _ => Sim.keeps_throw _
  unfold Policy.authenticate
  dsimp only
  split
  · exact Sim.keeps_exceptBind (Sim.keeps_throw _) fun _ => hlook
  · exact hlook

theorem keeps_resolveRole (t : Duration) (uid : String) :
    Sim.Keeps R ((worldPolicy t).resolveRole uid).run := by
  unfold Policy.resolveRole
  refine Sim.keeps_tryCatch (hR.keeps_boundedStore (Sim.keeps_getRole uid) _ _ _) fun e => ?_
  split
  · exact Sim.keeps_exceptBind (hR.keeps_boundedStore (hR.keeps_ensureUser uid) _ _ _)
      fun _ => Sim.keeps_exceptPure _
  · exact Sim.keeps_throw _

theorem keeps_authorize (t : Duration) (id : SessionId) (op : Operation) :
    Sim.Keeps R ((worldPolicy t).authorize id op).run := by
  unfold Policy.authorize
  refine Sim.keeps_exceptBind (keeps_authenticate hR t id) fun u => ?_
  split
  · exact Sim.keeps_exceptPure _
  · refine Sim.keeps_exceptBind (keeps_resolveRole hR t u) fun r => ?_
    split
    · exact Sim.keeps_exceptPure _
    · exact Sim.keeps_throw _

end Policy

/-! ## The services -/

variable (hR : Sim.Frame R) (w : World)
include hR

theorem keeps_loadMe (uid : String) : Sim.Keeps R (w.services.rbac.loadMe uid).run := by
  have hP := hR.toPolicyFrame
  unfold RbacService.loadMe
  refine Sim.keeps_tryCatch (hP.keeps_boundedStore (Sim.keeps_getMe uid) _ _ _) fun e => ?_
  split
  · exact Sim.keeps_exceptBind (hP.keeps_boundedStore (hP.keeps_ensureUser uid) _ _ _)
      fun _ => hP.keeps_boundedStore (Sim.keeps_getMe uid) _ _ _
  · exact Sim.keeps_throw _

theorem keeps_me (id : SessionId) : Sim.Keeps R (w.services.rbac.me id).run :=
  Sim.keeps_exceptBind (keeps_authorize hR.toPolicyFrame w.settings.gatewayTimeout id _) fun p =>
    keeps_loadMe hR w p.userId

theorem keeps_updateNickname (id : SessionId) (nick : String) :
    Sim.Keeps R (w.services.rbac.updateNickname id nick).run := by
  unfold RbacService.updateNickname
  refine Sim.keeps_exceptBind (keeps_authorize hR.toPolicyFrame w.settings.gatewayTimeout id _) fun p => ?_
  dsimp only
  split
  · exact Sim.keeps_exceptBind (Sim.keeps_exceptPure _) fun n => Sim.keeps_exceptBind
      (hR.toPolicyFrame.keeps_boundedStore (hR.keeps_setNickname p.userId n) _ _ _) fun _ => keeps_loadMe hR w p.userId
  · exact Sim.keeps_throwBind _ _

theorem keeps_listUsers (id : SessionId) (limit offset : Option Int) :
    Sim.Keeps R (w.services.rbac.listUsers id limit offset).run :=
  Sim.keeps_exceptBind (keeps_authorize hR.toPolicyFrame w.settings.gatewayTimeout id _) fun _ =>
    hR.toPolicyFrame.keeps_boundedStore (Sim.keeps_listUsers _) _ _ _

/-- A role assignment keeps what the role write keeps. -/
theorem keeps_setUserRole (hrole : ∀ (w : World) (id : String) (r : Role),
      R w (w.modifyUser id fun u => { u with role := r }).2) (id : SessionId) (target : String) (r : Role) :
    Sim.Keeps R (w.services.rbac.setUserRole id target r).run := by
  have hP := hR.toPolicyFrame
  unfold RbacService.setUserRole
  refine Sim.keeps_exceptBind (keeps_authorize hP w.settings.gatewayTimeout id _) fun _ => ?_
  dsimp only
  split
  · exact Sim.keeps_throwBind _ _
  · refine Sim.keeps_exceptBind (Sim.keeps_exceptLift (hP.keeps_boundedStore (Sim.keeps_getRole target) _ _ _))
      fun current => ?_
    split
    · exact Sim.keeps_throwBind _ _
    · exact hP.keeps_boundedStore (Sim.keeps_setRole hrole target r) .setRole _ _

/-- Signing out keeps what the session delete keeps. -/
theorem keeps_logout (hdel : ∀ id, Sim.Keeps R (Sim.deleteSession id)) (id : SessionId) :
    Sim.Keeps R (w.services.auth.logout id).run := by
  unfold AuthService.logout
  split
  · exact Sim.keeps_exceptPure _
  · exact hR.toPolicyFrame.keeps_boundedStore (hdel id) _ _ _

/-! ### The catalog and the issuer -/

theorem keeps_providerConfigs : Sim.Keeps R w.services.catalog.providerConfigs.run :=
  Sim.keeps_exceptBind (keeps_bounded (Sim.keeps_serviceCall hR.forward
    (Sim.keeps_readWorld _) _) _ _ _) fun _ => Sim.keeps_exceptPure _

/-- A write to the catalog, under its deadline and behind its faults. -/
theorem keeps_catalogWrite {α : Type} (f : AdminFake → AdminFake) (answer : α) (target : Target)
    (op : String) (t : Duration) :
    Sim.Keeps R (boundedGateway op t (Sim.serviceCall target (Sim.adminWrite f answer))).run :=
  keeps_bounded (Sim.keeps_serviceCall hR.forward (hR.keeps_adminWrite _ _) _) _ _ _

theorem keeps_listProviderConfigs (id : SessionId) :
    Sim.Keeps R (w.services.catalog.listProviderConfigs id).run :=
  Sim.keeps_exceptBind (keeps_authorize hR.toPolicyFrame w.settings.gatewayTimeout id _) fun _ =>
    keeps_providerConfigs hR w

theorem keeps_upsertProviderConfig (id : SessionId) (c : ProviderConfig) :
    Sim.Keeps R (w.services.catalog.upsertProviderConfig id c).run :=
  Sim.keeps_exceptBind (keeps_authorize hR.toPolicyFrame w.settings.gatewayTimeout id _) fun _ =>
    keeps_catalogWrite hR _ _ _ _ _

theorem keeps_deleteProviderConfig (id : SessionId) (p : Provider) :
    Sim.Keeps R (w.services.catalog.deleteProviderConfig id p).run :=
  Sim.keeps_exceptBind (keeps_authorize hR.toPolicyFrame w.settings.gatewayTimeout id _) fun _ =>
    keeps_catalogWrite hR _ _ _ _ _

theorem keeps_listModels (id : SessionId) : Sim.Keeps R (w.services.catalog.listModels id).run :=
  Sim.keeps_exceptBind (keeps_authorize hR.toPolicyFrame w.settings.gatewayTimeout id _) fun _ =>
    Sim.keeps_exceptBind (keeps_bounded (Sim.keeps_serviceCall hR.forward
      (Sim.keeps_readWorld _) _) _ _ _) fun _ => Sim.keeps_exceptPure _

theorem keeps_upsertModel (id : SessionId) (c : ModelConfig) :
    Sim.Keeps R (w.services.catalog.upsertModel id c).run := by
  unfold CatalogService.upsertModel
  refine Sim.keeps_exceptBind (keeps_authorize hR.toPolicyFrame w.settings.gatewayTimeout id _) fun _ => ?_
  dsimp only
  split
  · refine Sim.keeps_exceptBind (Sim.keeps_exceptPure _) fun _ =>
      Sim.keeps_exceptBind (keeps_providerConfigs hR w) fun _ => ?_
    split
    · exact Sim.keeps_throwBind _ _
    · exact keeps_catalogWrite hR _ _ _ _ _
  · exact Sim.keeps_throwBind _ _

theorem keeps_deleteModel (id : SessionId) (modelId : String) :
    Sim.Keeps R (w.services.catalog.deleteModel id modelId).run := by
  unfold CatalogService.deleteModel
  refine Sim.keeps_exceptBind (keeps_authorize hR.toPolicyFrame w.settings.gatewayTimeout id _) fun _ => ?_
  dsimp only
  split
  · exact Sim.keeps_exceptBind (Sim.keeps_exceptPure _) fun _ => keeps_catalogWrite hR _ _ _ _ _
  · exact Sim.keeps_throwBind _ _

theorem keeps_issueToken (id : SessionId) : Sim.Keeps R (w.services.tokens.issueToken id).run :=
  Sim.keeps_exceptBind (keeps_authorize hR.toPolicyFrame w.settings.gatewayTimeout id _) fun _ =>
    keeps_bounded (Sim.keeps_serviceCall hR.forward (hR.keeps_issue _ _ _) _) _ _ _

end Access

/-! ## The scenario steps -/

/-- The service steps that neither sign in nor out nor assign a role: the profile and the
nickname, the listing, the catalog, tokens, and moving the virtual clock. -/
def Step.isPlain : Step → Bool
  | .me _ | .updateNickname _ _ | .listUsers _ _ _ | .listProviderConfigs _
  | .upsertProviderConfig _ _ _ _ _ | .deleteProviderConfig _ _ | .listModels _
  | .upsertModel _ _ _ _ | .deleteModel _ _ | .issueToken _ | .advance _ _ => true
  | _ => false

/-- The steps of a run of the services: a sign-in, a sign-out, a role assignment, or a plain
step. -/
def Step.isService : Step → Bool
  | .login .. | .logout _ | .setUserRole .. => true
  | st => st.isPlain

namespace Sim

variable {R : World → World → Prop} [IsPreorder World R]

theorem keeps_withServices {f : Services → Sim Json} (hf : ∀ w : World, Keeps R (f w.services)) :
    Keeps R (withServices f) :=
  keeps_bind keeps_world hf

theorem keeps_serve {α : Type} (enc : α → Json) {call : ExceptT AccessError Sim α}
    (h : Keeps R call.run) : Keeps R (serve enc call) :=
  keeps_bind h fun _ => keeps_pure _

/-- A use case served on the session a step names keeps what the use case keeps in every world. -/
theorem keeps_sessionCall {α : Type} (s : String) (enc : α → Json)
    {call : Services → SessionId → ExceptT AccessError Sim α}
    (h : ∀ (w : World) id, Keeps R (call w.services id).run) :
    Keeps R (withServices fun svc => do serve enc (call svc (← sessionOf s))) :=
  keeps_withServices fun w => keeps_bind (keeps_sessionOf s) fun id => keeps_serve enc (h w id)

/-- A step that reads its session and then refuses its input keeps every `R`. -/
theorem keeps_sessionReply (s : String) (j : Json) :
    Keeps R (withServices fun _ => do let _ ← sessionOf s; pure j) :=
  keeps_withServices fun _ => keeps_bind (keeps_sessionOf s) fun _ => keeps_pure _

end Sim

namespace Access

open Sim

variable {R : World → World → Prop} [IsPreorder World R] (hR : Sim.Frame R)
include hR

/-- Every plain step keeps `R`, whatever its deadlines and faults. -/
theorem keeps_plainStep {st : Step} (h : st.isPlain = true) : Keeps R (Sim.step st) := by
  cases st with
  | me s =>
    simp only [Sim.step]
    exact keeps_sessionCall s _ (keeps_me hR)
  | updateNickname s nick =>
    simp only [Sim.step]
    exact keeps_sessionCall s _ fun w id => keeps_updateNickname hR w id nick
  | listUsers s limit offset =>
    simp only [Sim.step]
    exact keeps_sessionCall s _ fun w id => keeps_listUsers hR w id limit offset
  | listProviderConfigs s =>
    simp only [Sim.step]
    exact keeps_sessionCall s _ (keeps_listProviderConfigs hR)
  | upsertProviderConfig s provider baseUrl apiKey timeout =>
    simp only [Sim.step]
    -- the provider is read first, so that the unifier never has to evaluate its parser
    cases parseProvider provider with
    | error e => exact keeps_sessionReply s _
    | ok p =>
      exact keeps_sessionCall s _ fun w id => keeps_upsertProviderConfig hR w id _
  | deleteProviderConfig s provider =>
    simp only [Sim.step]
    cases parseProvider provider with
    | error e => exact keeps_sessionReply s _
    | ok p =>
      exact keeps_sessionCall s _ fun w id => keeps_deleteProviderConfig hR w id _
  | listModels s =>
    simp only [Sim.step]
    exact keeps_sessionCall s _ (keeps_listModels hR)
  | upsertModel s provider caps providerModel =>
    simp only [Sim.step]
    cases parseProvider provider with
    | error e => exact keeps_sessionReply s _
    | ok p =>
      cases parseCapabilities caps with
      | error e => exact keeps_sessionReply s _
      | ok cs =>
        exact keeps_sessionCall s _ fun w id => keeps_upsertModel hR w id _
  | deleteModel s modelId =>
    simp only [Sim.step]
    exact keeps_sessionCall s _ fun w id => keeps_deleteModel hR w id modelId
  | issueToken s =>
    simp only [Sim.step]
    exact keeps_sessionCall s _ (keeps_issueToken hR)
  | advance secs millis =>
    simp only [Sim.step]
    refine keeps_bind keeps_virtualClock fun _ => ?_
    split
    · exact keeps_bind (keeps_change fun w => hR.forward w _ (Nat.le_add_right _ _)) fun _ => keeps_pure _
    · exact keeps_pure _
  | _ => simp [Step.isPlain] at h

/-- A sign-out step keeps what the session delete keeps. -/
theorem keeps_logoutStep (hdel : ∀ id, Keeps R (Sim.deleteSession id)) (s : String) :
    Keeps R (Sim.step (.logout s)) := by
  simp only [Sim.step]
  exact keeps_sessionCall s _ fun w id => keeps_logout hR w hdel id

/-- A role-assignment step keeps what the role write keeps. -/
theorem keeps_assignStep (hrole : ∀ (w : World) (id : String) (r : Role),
      R w (w.modifyUser id fun u => { u with role := r }).2) (s target role : String) :
    Keeps R (Sim.step (.setUserRole s target role)) := by
  simp only [Sim.step]
  -- the role is read first, so that the unifier never has to evaluate its parser
  cases Role.parse? role with
  | none => exact keeps_sessionReply s _
  | some r =>
    exact keeps_sessionCall s _ fun w id => keeps_setUserRole hR w hrole id target r

end Access

/-! ## Runs -/

namespace World

/-- The world after the steps of a run from `w`, taken one after the other as a scenario takes
them. -/
def afterSteps (w : World) (steps : List Step) : World :=
  steps.foldl (fun w st => (Sim.runTop (Sim.step st) w).2) w

/-- What a run from `w` records, step by step: `f` tells what a step records from the world it
starts in. -/
def trace {α : Type} (f : World → Step → List α) : World → List Step → List α
  | _, [] => []
  | w, st :: rest => f w st ++ trace f (Sim.runTop (Sim.step st) w).2 rest

@[simp] theorem afterSteps_nil (w : World) : w.afterSteps [] = w := rfl

@[simp] theorem afterSteps_cons (w : World) (st : Step) (rest : List Step) :
    w.afterSteps (st :: rest) = (Sim.runTop (Sim.step st) w).2.afterSteps rest := rfl

@[simp] theorem trace_nil {α : Type} (f : World → Step → List α) (w : World) : w.trace f [] = [] := rfl

@[simp] theorem trace_cons {α : Type} (f : World → Step → List α) (w : World) (st : Step)
    (rest : List Step) : w.trace f (st :: rest) = f w st ++ (Sim.runTop (Sim.step st) w).2.trace f rest :=
  rfl

/-- **The run lemma.** What every service step keeps, with what it records appended to the
record so far, every run of service steps keeps, with the whole record of the run. -/
theorem afterSteps_of_step {α : Type} {f : World → Step → List α} {P : List α → World → Prop}
    (hstep : ∀ hs w st, st.isService = true → P hs w → P (hs ++ f w st) (Sim.runTop (Sim.step st) w).2)
    {hs : List α} {w : World} (h : P hs w) {steps : List Step} (hsvc : ∀ st ∈ steps, st.isService = true) :
    P (hs ++ w.trace f steps) (w.afterSteps steps) := by
  -- induction on the steps, carrying the world and the record so far
  induction steps generalizing hs w with
  | nil => simpa using h
  | cons st rest ih =>
    have hfirst := hstep hs w st (hsvc st (List.mem_cons_self ..)) h
    have hrest := ih hfirst fun st' h' => hsvc st' (List.mem_cons_of_mem _ h')
    rwa [trace_cons, ← List.append_assoc]

/-- What every service step keeps, every run of service steps keeps. -/
theorem afterSteps_invariant {P : World → Prop}
    (hstep : ∀ w st, st.isService = true → P w → P (Sim.runTop (Sim.step st) w).2) {w : World} (h : P w)
    {steps : List Step} (hsvc : ∀ st ∈ steps, st.isService = true) : P (w.afterSteps steps) :=
  @afterSteps_of_step Unit (fun _ _ => []) (fun _ w => P w) (fun _ w st hst h => hstep w st hst h) [] w h
    steps hsvc

end World

end Warden
