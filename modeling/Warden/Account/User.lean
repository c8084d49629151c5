import Warden.Account.Role
import Warden.Json.Decode

/-!
# Users and what the identity provider says about them

A user record is keyed by the identity provider's uid and holds a nickname, a role and two
instants. The provider's login information (email, linked accounts) is kept beside it, and
the two are joined into the views handed out: `Me` for the user themself and `AdminUser` for
the management listing. Without login information, the email is empty, there is no GitHub id,
and password login is off.

A stored role is read leniently: any text is accepted and an unknown one means `user`, so a
record written by a newer release still loads. A role that is not text is an error.
-/

namespace Warden

/-- The JSON form of a role: its wire name. -/
def Role.toJson (r : Role) : Json := .str r.name

/-- Reads a role by its exact wire name. -/
def Role.read : Json.Reader Role := do
  match ← Json.readVariant (Role.all.map Role.name) with
  | 1 => pure .admin
  | 2 => pure .superAdmin
  | _ => pure .user

/-- Reads a stored role: any text, through the lenient reading. -/
def Role.readStored : Json.Reader Role := do
  return Role.ofStored (← Json.readString)

/-- One OAuth identity linked at the identity provider. -/
structure OAuthConnection where
  provider : String
  providerUserId : String
  deriving DecidableEq, Repr

namespace OAuthConnection

/-- The JSON form. -/
def toJson (c : OAuthConnection) : Json :=
  .obj [("provider", .str c.provider), ("provider_user_id", .str c.providerUserId)]

/-- The JSON record. -/
def shape : Json.Shape OAuthConnection where
  name := "OAuthConnection"
  fields := [
    ⟨"provider", .required, fun c => do return { c with provider := ← Json.readString }⟩,
    ⟨"provider_user_id", .required, fun c => do return { c with providerUserId := ← Json.readString }⟩]
  init := ⟨"", ""⟩

end OAuthConnection

/-- What the identity provider reports at login. -/
structure LoginInfo where
  userId : String
  email : String
  githubId : Option String
  passwordEnabled : Bool
  connections : List OAuthConnection
  deriving DecidableEq, Repr

namespace LoginInfo

/-- Login information with only a uid and an email. -/
def basic (userId email : String) : LoginInfo := ⟨userId, email, none, false, []⟩

/-- The JSON form. -/
def toJson (i : LoginInfo) : Json :=
  .obj [("user_id", .str i.userId), ("email", .str i.email), ("github_id", .ofOption i.githubId),
    ("password_enabled", .bool i.passwordEnabled),
    ("oauth_connections", .arr (i.connections.map OAuthConnection.toJson))]

/-- The JSON record. -/
def shape : Json.Shape LoginInfo where
  name := "LoginInfo"
  fields := [
    ⟨"user_id", .required, fun i => do return { i with userId := ← Json.readString }⟩,
    ⟨"email", .required, fun i => do return { i with email := ← Json.readString }⟩,
    ⟨"github_id", .defaulted, fun i => do return { i with githubId := ← Json.readOption Json.readString }⟩,
    ⟨"password_enabled", .defaulted, fun i => do return { i with passwordEnabled := ← Json.readBool }⟩,
    ⟨"oauth_connections", .defaulted, fun i => do
      return { i with connections := ← Json.readList OAuthConnection.shape.read }⟩]
  init := basic "" ""

end LoginInfo

/-- A local user record. -/
structure User where
  id : String
  nickname : String
  role : Role
  createdAt : Timestamp
  updatedAt : Timestamp
  deriving DecidableEq, Repr

namespace User

/-- A new user with the default role and no nickname, created at `now`. -/
def fresh (id : String) (now : Timestamp) : User := ⟨id, "", .user, now, now⟩

/-- The JSON form, with instants written by `stamp`. -/
def toJsonWith (stamp : Timestamp → Json) (u : User) : Json :=
  .obj [("id", .str u.id), ("nickname", .str u.nickname), ("role", u.role.toJson),
    ("created_at", stamp u.createdAt), ("updated_at", stamp u.updatedAt)]

/-- The JSON form, with instants in RFC 3339. -/
def toJson (u : User) : Json := u.toJsonWith fun t => .str t.rfc3339

/-- The JSON record; the role is read leniently. -/
def shape : Json.Shape User where
  name := "User"
  fields := [
    ⟨"id", .required, fun u => do return { u with id := ← Json.readString }⟩,
    ⟨"nickname", .defaulted, fun u => do return { u with nickname := ← Json.readString }⟩,
    ⟨"role", .defaulted, fun u => do return { u with role := ← Role.readStored }⟩,
    ⟨"created_at", .required, fun u => do return { u with createdAt := ← Json.readTimestamp }⟩,
    ⟨"updated_at", .required, fun u => do return { u with updatedAt := ← Json.readTimestamp }⟩]
  init := fresh "" ⟨0, 0⟩

end User

/-- The current user's view of themself. -/
structure Me where
  userId : String
  role : Role
  email : String
  githubId : Option String
  nickname : String
  deriving DecidableEq, Repr

namespace Me

/-- Joins a user with its login information. -/
def compose (u : User) (info : Option LoginInfo) : Me :=
  ⟨u.id, u.role, (info.map (·.email)).getD "", info.bind (·.githubId), u.nickname⟩

/-- The JSON form. -/
def toJson (m : Me) : Json :=
  .obj [("user_id", .str m.userId), ("role", m.role.toJson), ("email", .str m.email),
    ("github_id", .ofOption m.githubId), ("nickname", .str m.nickname)]

/-- The JSON record; the role must be an exact wire name. -/
def shape : Json.Shape Me where
  name := "Me"
  fields := [
    ⟨"user_id", .required, fun m => do return { m with userId := ← Json.readString }⟩,
    ⟨"role", .required, fun m => do return { m with role := ← Role.read }⟩,
    ⟨"email", .required, fun m => do return { m with email := ← Json.readString }⟩,
    ⟨"github_id", .optional, fun m => do return { m with githubId := ← Json.readOption Json.readString }⟩,
    ⟨"nickname", .required, fun m => do return { m with nickname := ← Json.readString }⟩]
  init := ⟨"", .user, "", none, ""⟩

end Me

/-- A user as the management listing shows it. -/
structure AdminUser where
  id : String
  role : Role
  email : String
  githubId : Option String
  passwordEnabled : Bool
  createdAt : Timestamp
  updatedAt : Timestamp
  deriving DecidableEq, Repr

namespace AdminUser

/-- Joins a user with its login information. -/
def compose (u : User) (info : Option LoginInfo) : AdminUser :=
  ⟨u.id, u.role, (info.map (·.email)).getD "", info.bind (·.githubId),
    (info.map (·.passwordEnabled)).getD false, u.createdAt, u.updatedAt⟩

/-- The JSON form, with instants written by `stamp`. -/
def toJsonWith (stamp : Timestamp → Json) (a : AdminUser) : Json :=
  .obj [("id", .str a.id), ("role", a.role.toJson), ("email", .str a.email),
    ("github_id", .ofOption a.githubId), ("password_enabled", .bool a.passwordEnabled),
    ("created_at", stamp a.createdAt), ("updated_at", stamp a.updatedAt)]

/-- The JSON form, with instants in RFC 3339. -/
def toJson (a : AdminUser) : Json := a.toJsonWith fun t => .str t.rfc3339

/-- The JSON record. -/
def shape : Json.Shape AdminUser where
  name := "AdminUser"
  fields := [
    ⟨"id", .required, fun a => do return { a with id := ← Json.readString }⟩,
    ⟨"role", .required, fun a => do return { a with role := ← Role.read }⟩,
    ⟨"email", .required, fun a => do return { a with email := ← Json.readString }⟩,
    ⟨"github_id", .optional, fun a => do return { a with githubId := ← Json.readOption Json.readString }⟩,
    ⟨"password_enabled", .required, fun a => do return { a with passwordEnabled := ← Json.readBool }⟩,
    ⟨"created_at", .required, fun a => do return { a with createdAt := ← Json.readTimestamp }⟩,
    ⟨"updated_at", .required, fun a => do return { a with updatedAt := ← Json.readTimestamp }⟩]
  init := ⟨"", .user, "", none, false, ⟨0, 0⟩, ⟨0, 0⟩⟩

end AdminUser

end Warden
