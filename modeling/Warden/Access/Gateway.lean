import Warden.Access.Policy
import Warden.Access.Settings
import Warden.Text.Quoted

/-!
# Model gateway administration and data-plane tokens

Administrators manage the model gateway's providers and models through the catalog backend;
every signed-in user can obtain a short-lived data-plane token for the gateway.

Listings come back in a fixed order whatever the backend's order: providers by provider
(`dashscope` before `openrouter`), models by id in byte order. Submitted text is trimmed
before it is stored: a provider's base address and key, and a model's name at its provider, which
must not be blank. A model can only be added for a provider that is configured, which is
checked against the provider listing, so a failure to list is reported as it is.
-/

namespace Warden

namespace Access

variable {m : Type → Type} [Monad m] [MonadDeadline m]

/-- The gateway administration service. -/
structure CatalogService (m : Type → Type) where
  policy : Policy m
  catalog : CatalogBackend m
  settings : AccessSettings

namespace CatalogService

/-- The diagnostic text. -/
def dump (c : CatalogService m) : String := "LlmAdminService \x7b policy: " ++ c.policy.dump ++ ", .. \x7d"

/-- The provider configurations, ordered by provider. -/
def providerConfigs (c : CatalogService m) : ExceptT AccessError m (List ProviderView) := do
  let views ← boundedGateway "list_provider_configs" c.settings.gatewayTimeout c.catalog.listProviders
  pure (views.mergeSort fun a b => decide (a.provider.rank ≤ b.provider.rank))

/-- The provider configurations, for administrators. -/
def listProviderConfigs (c : CatalogService m) (id : SessionId) : ExceptT AccessError m (List ProviderView) := do
  let _ ← c.policy.authorize id .listProviderConfigs
  c.providerConfigs

/-- Adds or replaces a provider configuration, its address and key trimmed. -/
def upsertProviderConfig (c : CatalogService m) (id : SessionId) (config : ProviderConfig) :
    ExceptT AccessError m Unit := do
  let _ ← c.policy.authorize id .upsertProviderConfig
  let config := { config with baseUrl := Text.trim config.baseUrl, apiKey := config.apiKey.trimmed }
  boundedGateway "upsert_provider_config" c.settings.gatewayTimeout (c.catalog.upsertProvider config)

/-- Removes a provider configuration. -/
def deleteProviderConfig (c : CatalogService m) (id : SessionId) (provider : Provider) :
    ExceptT AccessError m Unit := do
  let _ ← c.policy.authorize id .deleteProviderConfig
  boundedGateway "delete_provider_config" c.settings.gatewayTimeout (c.catalog.deleteProvider provider)

/-- The models, ordered by id. -/
def listModels (c : CatalogService m) (id : SessionId) : ExceptT AccessError m (List ModelSpec) := do
  let _ ← c.policy.authorize id .listModels
  let models ← boundedGateway "list_models" c.settings.gatewayTimeout c.catalog.listModels
  pure (models.mergeSort fun a b => decide (a.id ≤ b.id))

/-- Adds or replaces a model of a configured provider and answers its id. -/
def upsertModel (c : CatalogService m) (id : SessionId) (config : ModelConfig) :
    ExceptT AccessError m String := do
  let _ ← c.policy.authorize id .upsertModel
  let providerModel ← match requireText "upstream_model" config.providerModel with
    | .ok u => pure u
    | .error _ => throw .invalidProviderModel
  let configured ← c.providerConfigs
  if !configured.any (·.provider == config.provider) then
    throw (.providerNotConfigured config.provider)
  boundedGateway "upsert_model" c.settings.gatewayTimeout
    (c.catalog.upsertModel { config with providerModel := providerModel })

/-- Removes a model by its id, trimmed. -/
def deleteModel (c : CatalogService m) (id : SessionId) (modelId : String) : ExceptT AccessError m Unit := do
  let _ ← c.policy.authorize id .deleteModel
  let modelId ← match requireText "id" modelId with
    | .ok i => pure i
    | .error _ => throw .invalidModelId
  boundedGateway "delete_model" c.settings.gatewayTimeout (c.catalog.deleteModel modelId)

end CatalogService

/-- The issuer of data-plane tokens. -/
structure TokenGate (m : Type → Type) where
  policy : Policy m
  issuer : IssuerBackend m
  settings : AccessSettings

namespace TokenGate

/-- The diagnostic text: the token lifetime and the allowed models. -/
def dump (g : TokenGate m) : String :=
  "TokenGate \x7b token_ttl_seconds: " ++ toString g.settings.tokenTtlSeconds ++ ", allowed_model_ids: "
    ++ Text.quotedList g.settings.allowedModelIds ++ ", .. \x7d"

/-- A data-plane token for the caller, with the configured lifetime and models. -/
def issueToken (g : TokenGate m) (id : SessionId) : ExceptT AccessError m IssuedToken := do
  let p ← g.policy.authorize id .issueToken
  boundedGateway "issue_token" g.settings.gatewayTimeout
    (g.issuer.issue p.userId g.settings.tokenTtlSeconds g.settings.allowedModelIds)

end TokenGate

end Access

end Warden
