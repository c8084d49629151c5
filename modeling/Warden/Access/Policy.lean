import Warden.Access.Operation
import Warden.Access.Backends

/-!
# The access policy

Every guarded operation starts here. A caller is authenticated by the session it presents
and then, for operations that need more than a signed-in caller, authorized by the role of
the session's owner.

## Order of checks

1. An empty session id is unauthenticated; no store is asked.
2. Any failure to read the session, a timeout included, is unauthenticated: a caller is
   never told why a session was refused.
3. Operations open to every signed-in caller answer the owner without reading a role.
4. Otherwise the role is read. An owner without a user record is created on the spot with
   the default role, so a session that outlived its user record still works; other read
   failures are reported as they are.
5. A role below the operation's clearance is forbidden.

Every downstream call is bounded by the policy's deadline, and a call that misses it fails
with a timeout naming the call.
-/

namespace Warden

namespace Access

variable {m : Type → Type} [Monad m] [MonadDeadline m]

/-- Runs a downstream call under a deadline: its failure becomes an access error through
`lift`, and a missed deadline a timeout naming the call. -/
def bounded {ε α : Type} (operation : String) (after : Duration) (lift : ε → AccessError)
    (call : m (Except ε α)) : ExceptT AccessError m α := do
  match ← (MonadDeadline.within after call : m _) with
  | some (.ok a) => pure a
  | some (.error e) => throw (lift e)
  | none => throw (.timeout operation after)

/-- Runs a store call under a deadline. -/
def boundedStore {α : Type} (operation : String) (after : Duration)
    (call : m (Except StoreError α)) : ExceptT AccessError m α :=
  bounded operation after .storage call

/-- Runs a gateway call under a deadline. -/
def boundedGateway {α : Type} (operation : String) (after : Duration)
    (call : m (Except GatewayError α)) : ExceptT AccessError m α :=
  bounded operation after .gateway call

/-- Who is calling, and their role when the operation needed it. -/
structure Principal where
  userId : String
  role : Option Role
  deriving DecidableEq, Repr

/-- The access policy: the session store and user directory it reads, and its deadline. -/
structure Policy (m : Type → Type) where
  sessions : SessionBackend m
  users : UserBackend m
  timeout : Duration

namespace Policy

/-- The diagnostic text. -/
def dump (p : Policy m) : String := "Policy \x7b timeout: " ++ p.timeout.text ++ ", .. \x7d"

/-- The owner of a live session, or unauthenticated. -/
def authenticate (p : Policy m) (id : SessionId) : ExceptT AccessError m String := do
  if id.isEmpty then throw .unauthenticated
  tryCatch (do return (← boundedStore "session_get" p.timeout (p.sessions.get id)).userId)
    fun _ => throw .unauthenticated

/-- The role of a user; a user without a record is created with the default role. -/
def resolveRole (p : Policy m) (userId : String) : ExceptT AccessError m Role := do
  tryCatch (boundedStore "get_role" p.timeout (p.users.getRole userId)) fun
    | .storage .notFound => do
      boundedStore "ensure_user" p.timeout (p.users.ensureExists userId)
      pure .user
    | e => throw e

/-- Authorizes the holder of a session for an operation. -/
def authorize (p : Policy m) (id : SessionId) (op : Operation) : ExceptT AccessError m Principal := do
  let userId ← p.authenticate id
  match op.clearance with
  | .signedIn => pure ⟨userId, none⟩
  | required =>
    let role ← p.resolveRole userId
    if required.admits role then pure ⟨userId, some role⟩ else throw .forbidden

end Policy

end Access

end Warden
