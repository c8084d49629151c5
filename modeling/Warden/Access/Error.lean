import Warden.Account.Field
import Warden.Model.Provider
import Warden.Time.Duration

/-!
# Why an access request fails

The failures of the stores, of the external services, and of the uid fallback, and the one
error type the access services answer with. Each error has a stable name, a kind that says
who is at fault (the caller's credentials, the caller's input, the deployment, or something
further down the line), and a message.
-/

namespace Warden

/-- A failure of a session store or user directory. -/
inductive StoreError where
  /-- The record is absent: never written, deleted, or expired. -/
  | notFound
  /-- The storage itself failed. -/
  | backend (message : String)
  /-- A stored record could not be decoded; the text is the decoder's. -/
  | serialization (message : String)
  deriving DecidableEq, Repr

namespace StoreError

/-- The message. -/
def message : StoreError → String
  | notFound => "Record not found"
  | backend m => "Backend error: " ++ m
  | serialization m => "Serialization error: " ++ m

/-- The name of the failure. -/
def tag : StoreError → String
  | notFound => "StoreNotFound"
  | backend _ => "StoreBackend"
  | serialization _ => "StoreSerialization"

end StoreError

/-- A failure of the identity provider or of the admin backend. -/
inductive GatewayError where
  | unavailable (message : String)
  | rejected (message : String)
  | backend (message : String)
  deriving DecidableEq, Repr

/-- The message of a service failure. -/
def GatewayError.message : GatewayError → String
  | .unavailable m => "Unavailable: " ++ m
  | .rejected m => "Rejected: " ++ m
  | .backend m => "Backend error: " ++ m

/-- A failure to read the user id from an access token. -/
inductive ExtractError where
  | emptyToken
  | malformed (message : String)
  | missingUserId
  deriving DecidableEq, Repr

namespace ExtractError

/-- The message. -/
def message : ExtractError → String
  | emptyToken => "Empty access token"
  | malformed m => "Malformed token: " ++ m
  | missingUserId => "User id not found in token claims"

/-- The name of the failure. -/
def tag : ExtractError → String
  | emptyToken => "EmptyToken"
  | malformed _ => "Malformed"
  | missingUserId => "MissingUserId"

end ExtractError

/-- Who is at fault for an error. -/
inductive ErrorKind where
  | unauthenticated
  | forbidden
  | invalidInput
  | precondition
  | configuration
  | dependency
  deriving DecidableEq, Repr

/-- The name of a kind. -/
def ErrorKind.name : ErrorKind → String
  | .unauthenticated => "Unauthenticated"
  | .forbidden => "Forbidden"
  | .invalidInput => "InvalidInput"
  | .precondition => "Precondition"
  | .configuration => "Configuration"
  | .dependency => "Upstream"

/-- Why an access request failed. -/
inductive AccessError where
  | unauthenticated
  | forbidden
  | invalidProvider
  | invalidCapability (raw : String)
  | invalidProviderModel
  | invalidModelId
  | invalidRole
  | invalidNickname (e : FieldError)
  | providerNotConfigured (p : Provider)
  | config (message : String)
  | extraction (e : ExtractError)
  | gateway (e : GatewayError)
  | storage (e : StoreError)
  /-- A downstream call did not finish within its deadline. -/
  | timeout (operation : String) (after : Duration)
  deriving Repr

namespace AccessError

/-- The name of the error. -/
def tag : AccessError → String
  | unauthenticated => "Unauthenticated"
  | forbidden => "Forbidden"
  | invalidProvider => "InvalidProvider"
  | invalidCapability _ => "InvalidCapability"
  | invalidProviderModel => "InvalidUpstreamModel"
  | invalidModelId => "InvalidModelId"
  | invalidRole => "InvalidRole"
  | invalidNickname _ => "InvalidNickname"
  | providerNotConfigured _ => "ProviderNotConfigured"
  | config _ => "Config"
  | extraction _ => "Extraction"
  | gateway _ => "Gateway"
  | storage _ => "Storage"
  | timeout _ _ => "Timeout"

/-- Who is at fault. -/
def kind : AccessError → ErrorKind
  | unauthenticated => .unauthenticated
  | forbidden => .forbidden
  | invalidProvider | invalidCapability _ | invalidProviderModel | invalidModelId | invalidRole
  | invalidNickname _ => .invalidInput
  | providerNotConfigured _ => .precondition
  | config _ => .configuration
  | extraction _ | gateway _ | storage _ | timeout _ _ => .dependency

/-- The message. -/
def message : AccessError → String
  | unauthenticated => "Unauthenticated"
  | forbidden => "Forbidden"
  | invalidProvider => "Invalid provider"
  | invalidCapability raw => "Invalid capability: " ++ raw
  | invalidProviderModel => "Invalid upstream_model"
  | invalidModelId => "Invalid model id"
  | invalidRole => "Invalid role"
  | invalidNickname e => "Invalid nickname: " ++ e.message
  | providerNotConfigured p => "Provider not configured: " ++ p.name
  | config m => "Config error: " ++ m
  | extraction e => "Extraction error: " ++ e.message
  | gateway e => "Gateway error: " ++ e.message
  | storage e => "Storage error: " ++ e.message
  | timeout op d => op ++ " timed out after " ++ d.text

end AccessError

end Warden
