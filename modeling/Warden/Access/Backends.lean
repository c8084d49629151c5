import Warden.Access.Error
import Warden.Account.Page
import Warden.Account.Session
import Warden.Account.User
import Warden.Model.Catalog

/-!
# The downstream calls of the access services

The access services own no storage and talk to no network themselves: every session, user
record, identity-provider answer, model-catalog change and gateway token comes through one of
the backends below. A backend is a record of operations in a monad `m`, each answering either a
value or the failure of that downstream kind, so the same service code runs against real
backends or a simulated world.

Each downstream call is bounded by a deadline. A monad that can run a computation under a
deadline is a `MonadDeadline`: `within d act` runs `act` and answers `none` when the deadline
`d` from now fell before `act` finished. What `act` did before it was cut off stays done.
-/

namespace Warden

/-- A monad in which a computation can be run under a deadline. -/
class MonadDeadline (m : Type → Type) where
  /-- Runs a computation under a deadline `d` from now: `some` its result when it finished in
  time, `none` when the deadline fell first. -/
  within : {α : Type} → Duration → m α → m (Option α)

/-- Where the identity provider sends the browser to sign in, and the state it will echo. -/
structure AuthorizationUrl where
  url : String
  state : String
  deriving DecidableEq, Repr

/-- A data-plane token for the model gateway and its expiry in Unix seconds. -/
structure IssuedToken where
  token : String
  expiresAtUnix : Int
  deriving DecidableEq, Repr

/-- The session store. -/
structure SessionBackend (m : Type → Type) where
  /-- Saves a session under an id for a lifetime. -/
  save : SessionId → Session → Duration → m (Except StoreError Unit)
  /-- The live session under an id. -/
  get : SessionId → m (Except StoreError Session)
  /-- Forgets the session under an id; forgetting an absent one is no error. -/
  delete : SessionId → m (Except StoreError Unit)

/-- The user directory. -/
structure UserBackend (m : Type → Type) where
  /-- Creates the user with the default role unless it exists. -/
  ensureExists : String → m (Except StoreError Unit)
  /-- Keeps the latest login information of a user. -/
  saveLoginInfo : LoginInfo → m (Except StoreError Unit)
  /-- The role of an existing user. -/
  getRole : String → m (Except StoreError Role)
  /-- Sets the role of a user, creating the user if needed. -/
  setRole : String → Role → m (Except StoreError Unit)
  /-- A page of the users, newest first. -/
  listUsers : Page → m (Except StoreError (List AdminUser))
  /-- The profile of an existing user. -/
  getMe : String → m (Except StoreError Me)
  /-- Sets the nickname of a user, creating the user if needed. -/
  setNickname : String → String → m (Except StoreError Unit)

/-- The identity provider. -/
structure IdentityBackend (m : Type → Type) where
  /-- Where to sign in with a provider, coming back to a redirect address. -/
  authorizationUrl : String → String → m (Except GatewayError AuthorizationUrl)
  /-- Exchanges an authorization code and state for tokens. -/
  loginByOAuth : String → String → m (Except GatewayError TokenPair)
  /-- What the provider knows of the holder of an access token. -/
  loginInfo : String → m (Except GatewayError LoginInfo)

/-- The administration side of the model gateway. -/
structure CatalogBackend (m : Type → Type) where
  upsertProvider : ProviderConfig → m (Except GatewayError Unit)
  deleteProvider : Provider → m (Except GatewayError Unit)
  listProviders : m (Except GatewayError (List ProviderView))
  /-- Adds or replaces a model and answers its gateway id. -/
  upsertModel : ModelConfig → m (Except GatewayError String)
  deleteModel : String → m (Except GatewayError Unit)
  listModels : m (Except GatewayError (List ModelSpec))

/-- The issuer of data-plane tokens: a subject, a lifetime in seconds, the allowed models. -/
structure IssuerBackend (m : Type → Type) where
  issue : String → Int → List String → m (Except GatewayError IssuedToken)

/-- Everything the access services reach. -/
structure Backends (m : Type → Type) where
  sessions : SessionBackend m
  users : UserBackend m
  identity : IdentityBackend m
  /-- Reads a user id from an access token, when a reader is wired at all. -/
  uidReader : Option (String → m (Except ExtractError String))
  catalog : CatalogBackend m
  issuer : IssuerBackend m
  /-- A fresh, unguessable session id. -/
  freshSessionId : m SessionId

end Warden
