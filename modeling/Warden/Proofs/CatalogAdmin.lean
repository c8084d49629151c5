import Warden.Proofs.UserListing
import Warden.Proofs.Utf8

/-!
# Administering the model catalog

The catalog service lets an administrator list, add, replace and remove provider configurations
and models. Every request passes the administrator gate first; the gate reads the session store
and the user directory, and leaves the catalog and the faults as they were.

## What a request does

A model to add names its upstream model, trimmed of `White_Space`; a blank one is refused before
anything else is asked. The provider listing is read next, and a model of a provider it does not
list is refused. Only then is the catalog written, once, with the trimmed name and the rest of
the model as given. A model is removed by its id, trimmed, and a blank id is refused. A provider
configuration is written with its address and key trimmed.

## What a failure does

Whatever the faults of the backends and whoever the caller, a write request that fails leaves
the catalog as it was (`catalog_of_upsertModel_error` and its siblings): the gate, a refusal, a
failed listing and a failed or hung call all change at most the stores and the clocks.

## The listings

Both listings are the backend's, reordered: models by id, which is the order of their UTF-8
bytes (`Text.encodeUtf8_le_of_le`), and provider configurations in the order of providers.
-/

namespace Warden

theorem requireText_of_blank {field s : String} (h : Text.trim s = "") :
    requireText field s = .error (.empty field) := by
  rw [requireText, h]
  rfl

theorem requireText_of_text {field s : String} (h : Text.trim s ≠ "") :
    requireText field s = .ok (Text.trim s) := by
  rw [requireText, if_neg (mt String.isEmpty_iff.1 h)]

/-- Models sorted by id are in the byte order of their ids. -/
theorem sortById_byteOrder (ms : List ModelSpec) :
    (ms.mergeSort fun a b => decide (a.id ≤ b.id)).Pairwise
      fun a b => Text.encodeUtf8 a.id ≤ Text.encodeUtf8 b.id := by
  have htrans : ∀ a b c : ModelSpec, decide (a.id ≤ b.id) = true → decide (b.id ≤ c.id) = true →
      decide (a.id ≤ c.id) = true := by
    simp only [decide_eq_true_eq]
    exact fun _ _ _ => le_trans
  have htotal : ∀ a b : ModelSpec, (decide (a.id ≤ b.id) || decide (b.id ≤ a.id)) = true := by
    simpa using fun a b : ModelSpec => le_total a.id b.id
  exact (List.pairwise_mergeSort htrans htotal ms).imp fun h => Text.encodeUtf8_le_of_le (of_decide_eq_true h)

/-- Provider configurations sorted by rank put every `dashscope` one before every `openrouter`
one. -/
theorem sortByRank_providerOrder (vs : List ProviderView) :
    (vs.mergeSort fun a b => decide (a.provider.rank ≤ b.provider.rank)).Pairwise
      fun a b => a.provider = .openrouter → b.provider = .openrouter := by
  have htrans : ∀ a b c : ProviderView, decide (a.provider.rank ≤ b.provider.rank) = true →
      decide (b.provider.rank ≤ c.provider.rank) = true → decide (a.provider.rank ≤ c.provider.rank) = true := by
    simp only [decide_eq_true_eq]
    exact fun _ _ _ => Nat.le_trans
  have htotal : ∀ a b : ProviderView,
      (decide (a.provider.rank ≤ b.provider.rank) || decide (b.provider.rank ≤ a.provider.rank)) = true := by
    simpa using fun a b : ProviderView => Nat.le_total a.provider.rank b.provider.rank
  refine (List.pairwise_mergeSort htrans htotal vs).imp fun {a b} h ha => ?_
  -- `openrouter` has the highest rank, so only another `openrouter` follows it
  rw [decide_eq_true_eq, ha] at h
  cases hb : b.provider
  · rw [hb] at h
    cases h
  · rfl

theorem Sim.adminWrite_run {α : Type} {ds : List Nat} {w : World} (f : AdminFake → AdminFake) (a : α) :
    Sim.adminWrite f a ds w = .ok (.ok a) { w with admin := f w.admin } := rfl

theorem Sim.readWorld_run {α : Type} {ds : List Nat} {w : World} (f : World → α) :
    (do return f (← Sim.world) : Sim α) ds w = .ok (f w) w := rfl

namespace Access

/-- The policy's answer depends on an operation only through its clearance. -/
theorem Policy.authorize_of_clearance {m : Type → Type} [Monad m] [MonadDeadline m] (p : Policy m)
    (id : SessionId) {op op' : Operation} (h : op.clearance = op'.clearance) :
    p.authorize id op = p.authorize id op' := by
  unfold Policy.authorize
  rw [h]

/-- Authorization changes neither the catalog nor the faults. -/
theorem catalog_of_authorize {w w₁ : World} {t : Duration} {id : SessionId} {op : Operation}
    {x : Except AccessError Principal} (h : ((worldPolicy t).authorize id op).run [] w = .ok x w₁) :
    w₁.admin = w.admin ∧ w₁.faults = w.faults := by
  obtain ⟨st, wall, c, rfl⟩ := World.storesAndClocks_of_authorize h
  exact ⟨rfl, rfl⟩

/-! ## The catalog's calls, without faults -/

section Calls

variable (w : World) {W : World} {ds : List Nat}

theorem catalogWrite_of_clear {α : Type} (f : AdminFake → AdminFake) (a : α) {target : Target}
    (hclear : W.faults.modeOf? target = none) (op : String) (t : Duration) :
    (boundedGateway op t (Sim.serviceCall target (Sim.adminWrite f a))).run ds W =
      .ok (.ok a) { W with admin := f W.admin } :=
  bounded_of_ok ((Sim.serviceCall_of_clear hclear).trans (Sim.adminWrite_run f a))

/-- The backend's listing of provider configurations, unless a fault is set on it. -/
theorem providerListing_of_clear (hclear : W.faults.modeOf? .listProviders = none) (t : Duration) :
    (boundedGateway "list_provider_configs" t w.services.catalog.catalog.listProviders).run ds W =
      .ok (.ok W.admin.providerViews) W :=
  bounded_of_ok ((Sim.serviceCall_of_clear hclear).trans (Sim.readWorld_run _))

theorem providerConfigs_of_clear (hclear : W.faults.modeOf? .listProviders = none) :
    w.services.catalog.providerConfigs.run ds W =
      .ok (.ok (W.admin.providerViews.mergeSort fun a b => decide (a.provider.rank ≤ b.provider.rank))) W :=
  Sim.run_bind_ok (providerListing_of_clear w hclear _) _

theorem modelListing_of_clear (hclear : W.faults.modeOf? .listModels = none) (t : Duration) :
    (boundedGateway "list_models" t w.services.catalog.catalog.listModels).run ds W =
      .ok (.ok W.admin.models) W :=
  bounded_of_ok ((Sim.serviceCall_of_clear hclear).trans (Sim.readWorld_run _))

end Calls

/-! ## An administrator's requests -/

section Admitted

variable {w w₁ : World} {id : SessionId} {op : Operation} {pr : Principal}
  (hgate : (w.services.catalog.policy.authorize id op).run [] w = .ok (.ok pr) w₁)
  (hop : op.clearance = .admin)
include hgate hop

/-- The gate admits a caller for every operation that needs an administrator alike. -/
theorem gate_of_admin (op' : Operation) (hop' : op'.clearance = .admin) :
    (w.services.catalog.policy.authorize id op').run [] w = .ok (.ok pr) w₁ := by
  rw [Policy.authorize_of_clearance _ _ (hop'.trans hop.symm)]
  exact hgate

theorem upsertModel_of_blank (c : ModelConfig) (hblank : Text.trim c.providerModel = "") :
    (w.services.catalog.upsertModel id c).run [] w = .ok (.error .invalidProviderModel) w₁ := by
  unfold CatalogService.upsertModel
  rw [Sim.run_bind_ok (gate_of_admin hgate hop .upsertModel rfl), requireText_of_blank hblank]
  rfl

theorem upsertModel_of_unconfigured (hlist : w.faults.modeOf? .listProviders = none) (c : ModelConfig)
    (hname : Text.trim c.providerModel ≠ "") (hnone : ∀ v ∈ w.admin.providerViews, v.provider ≠ c.provider) :
    (w.services.catalog.upsertModel id c).run [] w = .ok (.error (.providerNotConfigured c.provider)) w₁ := by
  obtain ⟨hadmin, hfaults⟩ := catalog_of_authorize hgate
  have hany : (w₁.admin.providerViews.mergeSort fun a b => decide (a.provider.rank ≤ b.provider.rank)).any
      (·.provider == c.provider) = false := by
    rw [(List.mergeSort_perm _ _).any_eq, hadmin, List.any_eq_false]
    intro v hv
    simpa using hnone v hv
  unfold CatalogService.upsertModel
  rw [Sim.run_bind_ok (gate_of_admin hgate hop .upsertModel rfl), requireText_of_text hname]
  refine (Sim.run_bind_ok rfl _).trans ?_
  refine (Sim.run_bind_ok (providerConfigs_of_clear w (hfaults ▸ hlist)) _).trans ?_
  rw [hany]
  rfl

/-- A model of a listed provider, with a name that is not blank, is written once, its name
trimmed and the rest as given. -/
theorem upsertModel_of_configured (hlist : w.faults.modeOf? .listProviders = none)
    (hup : w.faults.modeOf? .upsertModel = none) (c : ModelConfig) (hname : Text.trim c.providerModel ≠ "")
    (hsome : ∃ v ∈ w.admin.providerViews, v.provider = c.provider) :
    (w.services.catalog.upsertModel id c).run [] w =
      .ok (.ok (ModelSpec.ofConfig { c with providerModel := Text.trim c.providerModel }).id)
        { w₁ with admin := w.admin.upsertModel { c with providerModel := Text.trim c.providerModel } } := by
  obtain ⟨hadmin, hfaults⟩ := catalog_of_authorize hgate
  have hany : (w₁.admin.providerViews.mergeSort fun a b => decide (a.provider.rank ≤ b.provider.rank)).any
      (·.provider == c.provider) = true := by
    rw [(List.mergeSort_perm _ _).any_eq, hadmin, List.any_eq_true]
    obtain ⟨v, hv, hp⟩ := hsome
    exact ⟨v, hv, by simp [hp]⟩
  unfold CatalogService.upsertModel
  rw [Sim.run_bind_ok (gate_of_admin hgate hop .upsertModel rfl), requireText_of_text hname]
  refine (Sim.run_bind_ok rfl _).trans ?_
  refine (Sim.run_bind_ok (providerConfigs_of_clear w (hfaults ▸ hlist)) _).trans ?_
  rw [hany, ← hadmin]
  exact catalogWrite_of_clear _ _ (hfaults ▸ hup) _ _

theorem deleteModel_of_blank (mid : String) (hblank : Text.trim mid = "") :
    (w.services.catalog.deleteModel id mid).run [] w = .ok (.error .invalidModelId) w₁ := by
  unfold CatalogService.deleteModel
  rw [Sim.run_bind_ok (gate_of_admin hgate hop .deleteModel rfl), requireText_of_blank hblank]
  rfl

/-- A model id that is not blank is removed, trimmed. -/
theorem deleteModel_of_text (hdel : w.faults.modeOf? .deleteModel = none) (mid : String)
    (hname : Text.trim mid ≠ "") :
    (w.services.catalog.deleteModel id mid).run [] w =
      .ok (.ok ()) { w₁ with admin := w.admin.deleteModel (Text.trim mid) } := by
  obtain ⟨hadmin, hfaults⟩ := catalog_of_authorize hgate
  unfold CatalogService.deleteModel
  rw [Sim.run_bind_ok (gate_of_admin hgate hop .deleteModel rfl), requireText_of_text hname, ← hadmin]
  exact (Sim.run_bind_ok rfl _).trans (catalogWrite_of_clear _ _ (hfaults ▸ hdel) _ _)

/-- A provider configuration is written with its address and key trimmed and the rest as given. -/
theorem upsertProviderConfig_of_admitted (hup : w.faults.modeOf? .upsertProvider = none) (pc : ProviderConfig) :
    (w.services.catalog.upsertProviderConfig id pc).run [] w =
      .ok (.ok ()) { w₁ with
        admin := w.admin.upsertProvider { pc with baseUrl := Text.trim pc.baseUrl, apiKey := pc.apiKey.trimmed } } := by
  obtain ⟨hadmin, hfaults⟩ := catalog_of_authorize hgate
  unfold CatalogService.upsertProviderConfig
  rw [Sim.run_bind_ok (gate_of_admin hgate hop .upsertProviderConfig rfl), ← hadmin]
  exact catalogWrite_of_clear _ _ (hfaults ▸ hup) _ _

/-- The models are the backend's, sorted by id. -/
theorem listModels_of_admitted (hlist : w.faults.modeOf? .listModels = none) :
    (w.services.catalog.listModels id).run [] w =
      .ok (.ok (w.admin.models.mergeSort fun a b => decide (a.id ≤ b.id))) w₁ := by
  obtain ⟨hadmin, hfaults⟩ := catalog_of_authorize hgate
  unfold CatalogService.listModels
  rw [Sim.run_bind_ok (gate_of_admin hgate hop .listModels rfl), ← hadmin]
  exact Sim.run_bind_ok (modelListing_of_clear w (hfaults ▸ hlist) _) _

/-- The provider configurations are the backend's, sorted by provider. -/
theorem listProviderConfigs_of_admitted (hlist : w.faults.modeOf? .listProviders = none) :
    (w.services.catalog.listProviderConfigs id).run [] w =
      .ok (.ok (w.admin.providerViews.mergeSort fun a b => decide (a.provider.rank ≤ b.provider.rank))) w₁ := by
  obtain ⟨hadmin, hfaults⟩ := catalog_of_authorize hgate
  unfold CatalogService.listProviderConfigs
  rw [Sim.run_bind_ok (gate_of_admin hgate hop .listProviderConfigs rfl), ← hadmin]
  exact providerConfigs_of_clear w (hfaults ▸ hlist)

end Admitted

/-! ## A failed write leaves the catalog -/

section Failures

variable {w₀ w : World} {ds : List Nat} {α : Type} {Q : α → World → Prop}

/-- A run that stops short in a world differing from `w₀` at most in the stores and clocks. -/
abbrev FailsWithin (w₀ : World) : Option AccessError → World → Prop := fun _ w' => World.StoresAndClocks w₀ w'

theorem ends_throw_bind {β : Type} {e : AccessError} (f : β → ExceptT AccessError Sim α)
    (h₀ : World.StoresAndClocks w₀ w) : Sim.Ends (throw e >>= f) ds w Q (FailsWithin w₀) :=
  Sim.ends_of_error rfl h₀

/-- The gate ends, whichever way, having changed at most the stores and the clocks. -/
theorem ends_authorize (t : Duration) (id : SessionId) (op : Operation) :
    Sim.Ends ((worldPolicy t).authorize id op) ds w (fun _ w' => World.StoresAndClocks w w') (FailsWithin w) :=
  (keeps_authorize World.storesAndClocks_policyFrame t id op).ends ds w

/-- A write to the catalog fails only where it is not made: behind a fault, or cut by its
deadline while it hangs. -/
theorem ends_catalogWrite (f : AdminFake → AdminFake) (a : α) (target : Target) (op : String) (t : Duration)
    (h₀ : World.StoresAndClocks w₀ w) :
    Sim.Ends (boundedGateway op t (Sim.serviceCall target (Sim.adminWrite f a))) ds w (fun _ _ => True)
      (FailsWithin w₀) :=
  boundedGateway_ends (fun _ => Sim.adminWrite_run f a) (fun _ _ _ => trivial) (fun _ h => by cases h)
    fun c _ _ => trans_of World.StoresAndClocks h₀ ⟨w.stores, w.wall, c, rfl⟩

/-- The provider listing only reads. -/
theorem ends_providerConfigs (v : World) (h₀ : World.StoresAndClocks w₀ w) :
    Sim.Ends v.services.catalog.providerConfigs ds w (fun _ w' => World.StoresAndClocks w₀ w')
      (FailsWithin w₀) := by
  unfold CatalogService.providerConfigs
  refine Sim.ends_bind (boundedGateway_ends (fun _ => Sim.readWorld_run _) (fun _ _ _ => h₀) (fun _ h => by cases h)
    fun c _ _ => trans_of World.StoresAndClocks h₀ ⟨w.stores, w.wall, c, rfl⟩) fun _ w₁ h₁ => ?_
  exact Sim.ends_pure _ h₁

variable (w) (id : SessionId)

theorem ends_upsertModel (c : ModelConfig) :
    Sim.Ends (w.services.catalog.upsertModel id c) ds w (fun _ _ => True) (FailsWithin w) := by
  unfold CatalogService.upsertModel
  refine Sim.ends_bind (ends_authorize _ id _) fun _ w₁ h₁ => ?_
  dsimp only
  split
  · refine Sim.ends_bind (Q := fun _ w' => World.StoresAndClocks w w') (Sim.ends_pure _ h₁) fun _ w₂ h₂ => ?_
    refine Sim.ends_bind (ends_providerConfigs w h₂) fun _ w₃ h₃ => ?_
    split
    · exact ends_throw_bind _ h₃
    · exact ends_catalogWrite _ _ _ _ _ h₃
  · exact ends_throw_bind _ h₁

theorem ends_deleteModel (mid : String) :
    Sim.Ends (w.services.catalog.deleteModel id mid) ds w (fun _ _ => True) (FailsWithin w) := by
  unfold CatalogService.deleteModel
  refine Sim.ends_bind (ends_authorize _ id _) fun _ w₁ h₁ => ?_
  dsimp only
  split
  · refine Sim.ends_bind (Q := fun _ w' => World.StoresAndClocks w w') (Sim.ends_pure _ h₁) fun _ w₂ h₂ => ?_
    exact ends_catalogWrite _ _ _ _ _ h₂
  · exact ends_throw_bind _ h₁

theorem ends_upsertProviderConfig (pc : ProviderConfig) :
    Sim.Ends (w.services.catalog.upsertProviderConfig id pc) ds w (fun _ _ => True) (FailsWithin w) :=
  Sim.ends_bind (ends_authorize _ id _) fun _ _ h₁ => ends_catalogWrite _ _ _ _ _ h₁

theorem ends_deleteProviderConfig (p : Provider) :
    Sim.Ends (w.services.catalog.deleteProviderConfig id p) ds w (fun _ _ => True) (FailsWithin w) :=
  Sim.ends_bind (ends_authorize _ id _) fun _ _ h₁ => ends_catalogWrite _ _ _ _ _ h₁

variable {w}

/-- A request that ends in an error leaves the catalog as it was. -/
theorem catalog_of_ends_error {y : ExceptT AccessError Sim α} {e : AccessError} {w' : World}
    (hy : Sim.Ends y [] w Q (FailsWithin w)) (h : y.run [] w = .ok (.error e) w') : w'.admin = w.admin := by
  obtain ⟨st, wall, c, rfl⟩ := hy.error h
  rfl

end Failures

end Access

/-! ## The administrator's requests together -/

/-- **Administering the catalog.** For a caller that the administrator gate admits, leaving the
world `w₁`:
* a model with a blank upstream name is refused; otherwise a model of a provider missing from the
  provider listing is refused; otherwise the model is written once, its name trimmed and its
  provider and capabilities as given;
* a blank model id is refused, and any other is removed trimmed;
* a provider configuration is written with its address and key trimmed and the rest as given;
* whatever the faults, none of the four writes that fails changes the catalog;
* the listings are the backend's, models in the byte order of their ids and provider
  configurations `dashscope` first.
The answers of the calls are exact when no fault is set on them. -/
theorem catalog_administration (w : World) (id : SessionId) (op : Operation) (hop : op.clearance = .admin)
    (pr : Access.Principal) (w₁ : World)
    (hgate : (w.services.catalog.policy.authorize id op).run [] w = .ok (.ok pr) w₁) :
    (∀ c : ModelConfig, Text.trim c.providerModel = "" →
      (w.services.catalog.upsertModel id c).run [] w = .ok (.error .invalidProviderModel) w₁) ∧
    (w.faults.modeOf? .listProviders = none → ∀ c : ModelConfig, Text.trim c.providerModel ≠ "" →
      (∀ v ∈ w.admin.providerViews, v.provider ≠ c.provider) →
      (w.services.catalog.upsertModel id c).run [] w = .ok (.error (.providerNotConfigured c.provider)) w₁) ∧
    (w.faults.modeOf? .listProviders = none → w.faults.modeOf? .upsertModel = none → ∀ c : ModelConfig,
      Text.trim c.providerModel ≠ "" → (∃ v ∈ w.admin.providerViews, v.provider = c.provider) →
      (w.services.catalog.upsertModel id c).run [] w =
        .ok (.ok (ModelSpec.ofConfig { c with providerModel := Text.trim c.providerModel }).id)
          { w₁ with admin := w.admin.upsertModel { c with providerModel := Text.trim c.providerModel } }) ∧
    (∀ mid : String, Text.trim mid = "" →
      (w.services.catalog.deleteModel id mid).run [] w = .ok (.error .invalidModelId) w₁) ∧
    (w.faults.modeOf? .deleteModel = none → ∀ mid : String, Text.trim mid ≠ "" →
      (w.services.catalog.deleteModel id mid).run [] w =
        .ok (.ok ()) { w₁ with admin := w.admin.deleteModel (Text.trim mid) }) ∧
    (w.faults.modeOf? .upsertProvider = none → ∀ pc : ProviderConfig,
      (w.services.catalog.upsertProviderConfig id pc).run [] w = .ok (.ok ()) { w₁ with
        admin := w.admin.upsertProvider { pc with baseUrl := Text.trim pc.baseUrl, apiKey := pc.apiKey.trimmed } }) ∧
    (∀ (c : ModelConfig) (e : AccessError) (w' : World),
      (w.services.catalog.upsertModel id c).run [] w = .ok (.error e) w' → w'.admin = w.admin) ∧
    (∀ (mid : String) (e : AccessError) (w' : World),
      (w.services.catalog.deleteModel id mid).run [] w = .ok (.error e) w' → w'.admin = w.admin) ∧
    (∀ (pc : ProviderConfig) (e : AccessError) (w' : World),
      (w.services.catalog.upsertProviderConfig id pc).run [] w = .ok (.error e) w' → w'.admin = w.admin) ∧
    (∀ (p : Provider) (e : AccessError) (w' : World),
      (w.services.catalog.deleteProviderConfig id p).run [] w = .ok (.error e) w' → w'.admin = w.admin) ∧
    (w.faults.modeOf? .listModels = none → ∃ ms, (w.services.catalog.listModels id).run [] w = .ok (.ok ms) w₁ ∧
      ms.Perm w.admin.models ∧ ms.Pairwise fun a b => Text.encodeUtf8 a.id ≤ Text.encodeUtf8 b.id) ∧
    (w.faults.modeOf? .listProviders = none →
      ∃ vs, (w.services.catalog.listProviderConfigs id).run [] w = .ok (.ok vs) w₁ ∧
        vs.Perm w.admin.providerViews ∧ vs.Pairwise fun a b => a.provider = .openrouter → b.provider = .openrouter) := by
  open Access in
  refine ⟨upsertModel_of_blank hgate hop, fun hl => upsertModel_of_unconfigured hgate hop hl,
    fun hl hu => upsertModel_of_configured hgate hop hl hu, deleteModel_of_blank hgate hop,
    fun hd => deleteModel_of_text hgate hop hd, fun hu => upsertProviderConfig_of_admitted hgate hop hu,
    fun c _ _ => catalog_of_ends_error (ends_upsertModel w id c),
    fun mid _ _ => catalog_of_ends_error (ends_deleteModel w id mid),
    fun pc _ _ => catalog_of_ends_error (ends_upsertProviderConfig w id pc),
    fun p _ _ => catalog_of_ends_error (ends_deleteProviderConfig w id p), fun hl => ?_, fun hl => ?_⟩
  · exact ⟨_, listModels_of_admitted hgate hop hl, List.mergeSort_perm _ _, sortById_byteOrder _⟩
  · exact ⟨_, listProviderConfigs_of_admitted hgate hop hl, List.mergeSort_perm _ _, sortByRank_providerOrder _⟩

/-- An administrator adds a model of a configured provider, its upstream name padded: the catalog
stores it once under the trimmed name. -/
theorem catalog_administration_of_root :
    let root : User := ⟨"root", "", .superAdmin, ⟨1767225600, 0⟩, ⟨1767225600, 0⟩⟩
    let w : World := { Setup.world ⟨.memory, AccessSettings.default, "", IdentityFake.defaultReply, .absent, "tok"⟩ with
      stores := .memory ⟨[("root-session", ⟨⟨"root", TokenPair.empty⟩, 3600000000000⟩)]⟩ ⟨[root], []⟩
      admin := { AdminFake.empty with providers := [⟨.dashscope, "https://dashscope.example", ⟨"key"⟩, 30⟩] } }
    (w.services.catalog.upsertModel ⟨"root-session"⟩ ⟨.dashscope, [.text], " qwen-max "⟩).run [] w =
      .ok (.ok "dashscope:qwen-max") { w with admin := w.admin.upsertModel ⟨.dashscope, [.text], "qwen-max"⟩ } := by
  intro root w
  exact (catalog_administration w ⟨"root-session"⟩ .upsertModel rfl ⟨"root", some .superAdmin⟩ w rfl).2.2.1 rfl rfl
    _ (by decide) ⟨_, List.mem_singleton_self _, rfl⟩

end Warden
