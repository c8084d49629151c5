import Warden.Access.Claims
import Warden.Access.Backends

/-!
# Simulated services

The identity provider, the uid reader, the model gateway's administration backend and the
token issuer of a simulated world. Each is plain data with the answers it gives, so a run can
be replayed and its state inspected after every step.

* The identity provider refuses an empty redirect address or an empty code, answers a
  sign-in with fixed tokens around the current access token, and answers "who holds this
  token" with its current reply: some login information, a failure, or, after a long
  sleep, the failure of a provider that hung.
* The uid reader is absent, reads the token's claims, or always answers one way.
* The administration backend keeps providers and models in insertion order; an upsert
  replaces the entry with the same key by a new last entry, a delete of something absent is
  fine, and both count as writes.
* The issuer remembers the last request and answers a token named after the subject whose
  expiry saturates at the largest signed 64-bit second.
-/

namespace Warden

/-! ## The identity provider -/

/-- What the identity provider answers when asked who holds an access token. -/
inductive Reply where
  | info (i : LoginInfo)
  | fail
  /-- No answer until a long sleep is over. -/
  | hang
  deriving DecidableEq, Repr

/-- The simulated identity provider. -/
structure IdentityFake where
  reply : Reply
  accessToken : String
  deriving DecidableEq, Repr

namespace IdentityFake

/-- The default reply: user `u-1` with address `u1@example.com`. -/
def defaultReply : Reply := .info (LoginInfo.basic "u-1" "u1@example.com")

/-- Where to sign in with a provider. -/
def authorizationUrl (provider redirect : String) : Except GatewayError AuthorizationUrl :=
  if redirect.isEmpty then .error (.rejected "redirect url")
  else .ok ⟨"https://idp.example.com/" ++ provider ++ "?redirect=" ++ redirect, "state-1"⟩

/-- The tokens of a sign-in. -/
def loginByOAuth (f : IdentityFake) (code : String) : Except GatewayError TokenPair :=
  if code.isEmpty then .error (.rejected "code")
  else .ok ⟨⟨f.accessToken, 1000⟩, ⟨"refresh-token", 2000⟩, "Bearer"⟩

/-- The answer of a reply that answers at once. -/
def replyAnswer : Reply → Except GatewayError LoginInfo
  | .info i => .ok i
  | .fail => .error (.unavailable "idp down")
  | .hang => .error (.unavailable "hung")

end IdentityFake

/-! ## The uid reader -/

/-- Where a user id comes from when the identity provider names none. -/
inductive UidSource where
  /-- No reader is wired. -/
  | absent
  /-- The claims of the access token. -/
  | claims
  /-- Always this id. -/
  | fixed (uid : String)
  /-- Always this failure. -/
  | failing (e : ExtractError)
  deriving DecidableEq, Repr

namespace UidSource

/-- Whether a reader is wired. -/
def wired : UidSource → Bool
  | absent => false
  | _ => true

/-- What the reader answers for an access token. -/
def read : UidSource → String → Except ExtractError String
  | absent, _ => .error .emptyToken
  | claims, token => Claims.userId token
  | fixed uid, _ => .ok uid
  | failing e, _ => .error e

end UidSource

/-! ## The administration backend -/

/-- The simulated administration backend of the model gateway. -/
structure AdminFake where
  providers : List ProviderConfig
  models : List ModelSpec
  writes : Nat
  lastApiKey : Option String

namespace AdminFake

/-- The empty backend. -/
def empty : AdminFake := ⟨[], [], 0, none⟩

/-- Adds a provider configuration as the last one, replacing the old one of its provider. -/
def upsertProvider (a : AdminFake) (c : ProviderConfig) : AdminFake :=
  { a with providers := a.providers.filter (·.provider != c.provider) ++ [c], writes := a.writes + 1,
           lastApiKey := some c.apiKey.reveal }

/-- Removes the configuration of a provider. -/
def deleteProvider (a : AdminFake) (p : Provider) : AdminFake :=
  { a with providers := a.providers.filter (·.provider != p), writes := a.writes + 1 }

/-- The provider configurations, in insertion order. -/
def providerViews (a : AdminFake) : List ProviderView := a.providers.map ProviderView.ofConfig

/-- Adds a model as the last one, replacing the old one of its id. -/
def upsertModel (a : AdminFake) (m : ModelConfig) : AdminFake :=
  let spec := ModelSpec.ofConfig m
  { a with models := a.models.filter (·.id != spec.id) ++ [spec], writes := a.writes + 1 }

/-- Removes a model by id. -/
def deleteModel (a : AdminFake) (id : String) : AdminFake :=
  { a with models := a.models.filter (·.id != id), writes := a.writes + 1 }

end AdminFake

/-! ## The token issuer -/

/-- A request to the token issuer. -/
structure IssueRequest where
  subject : String
  ttlSeconds : Int
  allowedModelIds : List String
  deriving DecidableEq, Repr

/-- The base of the simulated token expiry, in Unix seconds. -/
def issueEpoch : Int := 1700000000

/-- The largest signed 64-bit integer. -/
def int64Max : Int := 9223372036854775807

/-- The token answered for a request. -/
def IssueRequest.answer (r : IssueRequest) : IssuedToken :=
  ⟨"dp-" ++ r.subject, min (issueEpoch + r.ttlSeconds) int64Max⟩

end Warden
