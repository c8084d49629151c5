import Warden.Access.Policy
import Warden.Access.Settings

/-!
# Signing in and out

Signing in turns an authorization code from the identity provider into a server-side session.

## The sequence

1. The code is exchanged for tokens.
2. The provider is asked who holds the access token. Its answer is used only when it names a
   user; a failure, a timeout or an answer without a user id means "no answer", and the
   sign-in goes on.
3. The user id is the provider's, or else the one read from the access token itself. Without
   a token reader this is a configuration error; a reader failure or an empty id is an
   extraction error.
4. The user record is created unless it exists.
5. With a provider answer, it is kept as the user's login information, and an address on the
   super-admin list promotes the user.
6. A new session is saved for the requested lifetime.

Each call is bounded by the gateway deadline and the whole sequence by the login deadline, so
a slow provider cannot hold a sign-in open. Steps finished before a deadline fell stay done.
-/

namespace Warden

namespace Access

variable {m : Type → Type} [Monad m] [MonadDeadline m]

/-- A finished sign-in: the new session and its owner. -/
structure CompletedLogin where
  sessionId : SessionId
  userId : String
  deriving DecidableEq, Repr

/-- The sign-in service. -/
structure AuthService (m : Type → Type) where
  backends : Backends m
  settings : AccessSettings

namespace AuthService

/-- The policy over the same stores, bounded by the gateway deadline. -/
def policy (a : AuthService m) : Policy m := ⟨a.backends.sessions, a.backends.users, a.settings.gatewayTimeout⟩

/-- The lifetime of new sessions. -/
def sessionTtl (a : AuthService m) : Duration := a.settings.sessionTtl

/-- The diagnostic text: the settings and whether a token reader is wired. -/
def dump (a : AuthService m) : String :=
  "AuthService \x7b config: " ++ a.settings.dump ++ ", uid_extractor: "
    ++ toString a.backends.uidReader.isSome ++ ", .. \x7d"

/-- Where to send the browser to sign in with a provider. -/
def startOAuth (a : AuthService m) (provider redirect : String) : ExceptT AccessError m AuthorizationUrl :=
  boundedGateway "authorization_url" a.settings.gatewayTimeout (a.backends.identity.authorizationUrl provider redirect)

/-- The provider's answer about the holder of an access token, when it names a user. -/
def lookupLoginInfo (a : AuthService m) (tokens : TokenPair) : m (Option LoginInfo) := do
  let answer ← (boundedGateway "current_user_login_info" a.settings.gatewayTimeout
    (a.backends.identity.loginInfo tokens.access.value)).run
  match answer with
  | .ok info => pure (if info.userId.isEmpty then none else some info)
  | .error _ => pure none

/-- The user id read from the access token itself. -/
def fallbackUserId (a : AuthService m) (tokens : TokenPair) : ExceptT AccessError m String := do
  match a.backends.uidReader with
  | none => throw (.config "uid extractor not configured")
  | some read =>
    match ← ExceptT.lift (read tokens.access.value) with
    | .error e => throw (.extraction e)
    | .ok uid => if uid.isEmpty then throw (.extraction .missingUserId) else pure uid

/-- The sign-in sequence, without the overall deadline. -/
def complete (a : AuthService m) (code state : String) (ttl : Duration) :
    ExceptT AccessError m CompletedLogin := do
  let timeout := a.settings.gatewayTimeout
  let tokens ← boundedGateway "login_by_oauth" timeout (a.backends.identity.loginByOAuth code state)
  let info ← ExceptT.lift (a.lookupLoginInfo tokens)
  let userId ← match info with
    | some i => pure i.userId
    | none => a.fallbackUserId tokens
  boundedStore "ensure_user" timeout (a.backends.users.ensureExists userId)
  if let some i := info then
    boundedStore "save_login_info" timeout (a.backends.users.saveLoginInfo i)
    if a.settings.superAdmins.contains i.email then
      boundedStore "promote_super_admin" timeout (a.backends.users.setRole userId .superAdmin)
  let sessionId ← ExceptT.lift a.backends.freshSessionId
  boundedStore "session_save" timeout (a.backends.sessions.save sessionId ⟨userId, tokens⟩ ttl)
  pure ⟨sessionId, userId⟩

/-- Signs in with an authorization code, within the login deadline. -/
def completeOAuthToSession (a : AuthService m) (code state : String) (ttl : Duration) :
    ExceptT AccessError m CompletedLogin := do
  match ← ExceptT.lift (MonadDeadline.within a.settings.loginTimeout (a.complete code state ttl).run) with
  | some r => ExceptT.mk (pure r)
  | none => throw (.timeout "complete_oauth" a.settings.loginTimeout)

/-- Signs out: forgets the session. An empty id is already signed out. -/
def logout (a : AuthService m) (id : SessionId) : ExceptT AccessError m Unit := do
  if id.isEmpty then return
  boundedStore "session_delete" a.settings.gatewayTimeout (a.backends.sessions.delete id)

end AuthService

end Access

end Warden
