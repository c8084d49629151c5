import Warden.Model.Provider
import Warden.Account.Secret
import Warden.Json.Decode

/-!
# The model catalogue

What an administrator configures for the gateway: one configuration per provider (base URL,
API key, timeout) and any number of models, each served by a provider under the provider's
name and declaring capabilities. A provider configuration is only ever listed back as a view,
which says whether a key is stored but not what it is.
-/

namespace Warden

/-- The JSON form of a provider: its name. -/
def Provider.toJson (p : Provider) : Json := .str p.name

/-- Reads a provider by its exact name. -/
def Provider.read : Json.Reader Provider := do
  match ← Json.readVariant [Provider.dashscope.name, Provider.openrouter.name] with
  | 1 => pure .openrouter
  | _ => pure .dashscope

/-- The JSON form of a capability: its name. -/
def Capability.toJson (c : Capability) : Json := .str c.name

/-- Reads a capability by its exact name. -/
def Capability.read : Json.Reader Capability := do
  let i ← Json.readVariant (Capability.all.map Capability.name)
  pure (Capability.all.getD i .text)

/-- A provider configuration as an administrator submits it. -/
structure ProviderConfig where
  provider : Provider
  baseUrl : String
  apiKey : ApiKey
  timeoutSeconds : Int

/-- A provider configuration as listed back: no secret material. -/
structure ProviderView where
  provider : Provider
  baseUrl : String
  timeoutSeconds : Int
  apiKeyPresent : Bool
  deriving DecidableEq, Repr

namespace ProviderView

/-- The view of a configuration: a key is present when it is not empty. -/
def ofConfig (c : ProviderConfig) : ProviderView :=
  ⟨c.provider, c.baseUrl, c.timeoutSeconds, !c.apiKey.isEmpty⟩

/-- The JSON form. -/
def toJson (v : ProviderView) : Json :=
  .obj [("provider", v.provider.toJson), ("base_url", .str v.baseUrl),
    ("timeout_seconds", .int v.timeoutSeconds), ("api_key_present", .bool v.apiKeyPresent)]

/-- The JSON record. -/
def shape : Json.Shape ProviderView where
  name := "LlmProviderConfigView"
  fields := [
    ⟨"provider", .required, fun v => do return { v with provider := ← Provider.read }⟩,
    ⟨"base_url", .required, fun v => do return { v with baseUrl := ← Json.readString }⟩,
    ⟨"timeout_seconds", .required, fun v => do return { v with timeoutSeconds := ← Json.readI64 }⟩,
    ⟨"api_key_present", .required, fun v => do return { v with apiKeyPresent := ← Json.readBool }⟩]
  init := ⟨.dashscope, "", 0, false⟩

end ProviderView

/-- A model as an administrator submits it. -/
structure ModelConfig where
  provider : Provider
  capabilities : List Capability
  providerModel : String
  deriving DecidableEq, Repr

namespace ModelConfig

/-- The JSON form. -/
def toJson (m : ModelConfig) : Json :=
  .obj [("provider", m.provider.toJson), ("capabilities", .arr (m.capabilities.map Capability.toJson)),
    ("upstream_model", .str m.providerModel)]

/-- The JSON record. -/
def shape : Json.Shape ModelConfig where
  name := "LlmModelConfig"
  fields := [
    ⟨"provider", .required, fun m => do return { m with provider := ← Provider.read }⟩,
    ⟨"capabilities", .defaulted, fun m => do return { m with capabilities := ← Json.readList Capability.read }⟩,
    ⟨"upstream_model", .required, fun m => do return { m with providerModel := ← Json.readString }⟩]
  init := ⟨.dashscope, [], ""⟩

/-- The gateway's id of a model: its provider and its name there. -/
def id (m : ModelConfig) : String := m.provider.name ++ ":" ++ m.providerModel

end ModelConfig

/-- A model as listed back, under its gateway id. -/
structure ModelSpec where
  id : String
  provider : Provider
  capabilities : List Capability
  providerModel : String
  deriving DecidableEq, Repr

namespace ModelSpec

/-- The spec of a configured model. -/
def ofConfig (m : ModelConfig) : ModelSpec := ⟨m.id, m.provider, m.capabilities, m.providerModel⟩

/-- The JSON form. -/
def toJson (m : ModelSpec) : Json :=
  .obj [("id", .str m.id), ("provider", m.provider.toJson),
    ("capabilities", .arr (m.capabilities.map Capability.toJson)), ("upstream_model", .str m.providerModel)]

/-- The JSON record. -/
def shape : Json.Shape ModelSpec where
  name := "LlmModelSpec"
  fields := [
    ⟨"id", .required, fun m => do return { m with id := ← Json.readString }⟩,
    ⟨"provider", .required, fun m => do return { m with provider := ← Provider.read }⟩,
    ⟨"capabilities", .required, fun m => do return { m with capabilities := ← Json.readList Capability.read }⟩,
    ⟨"upstream_model", .required, fun m => do return { m with providerModel := ← Json.readString }⟩]
  init := ⟨"", .dashscope, [], ""⟩

end ModelSpec

end Warden
