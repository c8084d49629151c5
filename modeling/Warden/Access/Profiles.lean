import Warden.Access.Input
import Warden.Access.Policy
import Warden.Access.Settings

/-!
# Profiles and roles

The caller's own profile, its nickname, the user listing and role assignment.

A profile is read from the user directory; a signed-in caller without a user record gets one
on first read, so the profile of a fresh session is never missing. A nickname is trimmed and
checked before it is written.

Role assignment is for super administrators only and can only hand out `user` or `admin`. A
super administrator cannot be demoted this way: the target's current role is read first, and
when it is `super_admin` the change is forbidden. That read is a guard and not a source of
errors: when it fails, the write still goes ahead, which also creates a missing target.
-/

namespace Warden

namespace Access

variable {m : Type → Type} [Monad m] [MonadDeadline m]

/-- The profile and role service. -/
structure RbacService (m : Type → Type) where
  policy : Policy m
  users : UserBackend m
  settings : AccessSettings

namespace RbacService

/-- The diagnostic text. -/
def dump (r : RbacService m) : String := "RbacService \x7b policy: " ++ r.policy.dump ++ ", .. \x7d"

/-- The profile of a user, created on first read. -/
def loadMe (r : RbacService m) (userId : String) : ExceptT AccessError m Me := do
  let timeout := r.settings.gatewayTimeout
  tryCatch (boundedStore "get_me" timeout (r.users.getMe userId)) fun
    | .storage .notFound => do
      boundedStore "ensure_user" timeout (r.users.ensureExists userId)
      boundedStore "get_me" timeout (r.users.getMe userId)
    | e => throw e

/-- The caller's own profile. -/
def me (r : RbacService m) (id : SessionId) : ExceptT AccessError m Me := do
  let p ← r.policy.authorize id .getOwnProfile
  r.loadMe p.userId

/-- Sets the caller's nickname, trimmed, and answers the new profile. -/
def updateNickname (r : RbacService m) (id : SessionId) (nickname : String) : ExceptT AccessError m Me := do
  let p ← r.policy.authorize id .updateOwnProfile
  let nick ← match checkNickname nickname with
    | .ok n => pure n
    | .error e => throw (.invalidNickname e)
  boundedStore "set_nickname" r.settings.gatewayTimeout (r.users.setNickname p.userId nick)
  r.loadMe p.userId

/-- A page of the users, newest first. -/
def listUsers (r : RbacService m) (id : SessionId) (limit offset : Option Int) :
    ExceptT AccessError m (List AdminUser) := do
  let _ ← r.policy.authorize id .listUsers
  boundedStore "list_users" r.settings.gatewayTimeout (r.users.listUsers (r.settings.page limit offset))

/-- Assigns a role to a user. -/
def setUserRole (r : RbacService m) (id : SessionId) (target : String) (role : Role) :
    ExceptT AccessError m Unit := do
  let _ ← r.policy.authorize id .assignRole
  if !role.isAssignable then throw .invalidRole
  let timeout := r.settings.gatewayTimeout
  let current ← ExceptT.lift (boundedStore "get_role" timeout (r.users.getRole target)).run
  if let .ok .superAdmin := current then throw .forbidden
  boundedStore "set_role" timeout (r.users.setRole target role)

end RbacService

end Access

end Warden
