import Warden.Account.Page
import Warden.Account.User
import Warden.Store.Sessions

/-!
# User directories

Two user directories with the same behaviour: one in memory, and one in two durable trees
(user records, and login information), both keyed by user id.

## Operations

* Creating a user that exists leaves it untouched.
* Setting a role or a nickname creates a missing user first and marks the record modified.
* Login information is replaced whole.
* A listing is ordered newest first by creation instant, ties broken by id, and then cut to
  the page.

Instants come from the wall clock, which every operation reads once as `now`.

## Durable records

Records are kept as JSON text and decoded when read, so a record written by someone else can
fail to decode, which is a serialization error of the operation that read it. A listing
decodes every record in key order and stops at the first failure. The id inside a record is
the user's id in every view, even when it differs from the key it is stored under, and the
login information of a listed user is looked up by that id.
-/

namespace Warden

/-- Orders users newest first, ties broken by id: a total preorder for a stable sort. -/
def newerFirst (a b : User) : Bool :=
  b.createdAt.lt a.createdAt || (a.createdAt == b.createdAt && decide (a.id ≤ b.id))

/-- Users newest first. -/
def sortNewestFirst (users : List User) : List User := users.mergeSort newerFirst

/-! ## In memory -/

/-- The in-memory directory: users and login information, each id once. -/
structure MemoryUsers where
  users : List User
  logins : List LoginInfo
  deriving DecidableEq, Repr

namespace MemoryUsers

/-- The empty directory. -/
def empty : MemoryUsers := ⟨[], []⟩

/-- The number of users. -/
def count (d : MemoryUsers) : Nat := d.users.length

/-- The user of an id. -/
def find? (d : MemoryUsers) (id : String) : Option User := d.users.find? (·.id == id)

/-- The login information of a user id. -/
def loginOf? (d : MemoryUsers) (id : String) : Option LoginInfo := d.logins.find? (·.userId == id)

/-- The directory with a user record put in place of the old one of its id. -/
def put (d : MemoryUsers) (u : User) : MemoryUsers :=
  { d with users := u :: d.users.filter (·.id != u.id) }

/-- The user of an id, or a new one created at `now`. -/
def entry (d : MemoryUsers) (id : String) (now : Timestamp) : User :=
  (d.find? id).getD (User.fresh id now)

/-- Creates a user unless it exists. -/
def ensureExists (d : MemoryUsers) (id : String) (now : Timestamp) : MemoryUsers :=
  if (d.find? id).isSome then d else d.put (User.fresh id now)

/-- Keeps the login information of its user. -/
def saveLoginInfo (d : MemoryUsers) (info : LoginInfo) : MemoryUsers :=
  { d with logins := info :: d.logins.filter (·.userId != info.userId) }

/-- The role of an existing user. -/
def getRole (d : MemoryUsers) (id : String) : Except StoreError Role :=
  match d.find? id with
  | some u => .ok u.role
  | none => .error .notFound

/-- Changes a user, created if missing, and marks it modified at `now`. -/
def modify (d : MemoryUsers) (id : String) (f : User → User) (now : Timestamp) : MemoryUsers :=
  d.put { f (d.entry id now) with updatedAt := now }

/-- A page of the users, newest first, joined with their login information. -/
def listUsers (d : MemoryUsers) (p : Page) : List AdminUser :=
  (p.window (sortNewestFirst d.users)).map fun u => AdminUser.compose u (d.loginOf? u.id)

/-- The profile of an existing user. -/
def getMe (d : MemoryUsers) (id : String) : Except StoreError Me :=
  match d.find? id with
  | some u => .ok (Me.compose u (d.loginOf? id))
  | none => .error .notFound

end MemoryUsers

/-! ## Durable -/

/-- The durable directory: a tree of user records and a tree of login information. -/
structure DurableUsers where
  users : Tree
  logins : Tree
  deriving DecidableEq, Repr

namespace DurableUsers

/-- The empty directory. -/
def empty : DurableUsers := ⟨Tree.empty, Tree.empty⟩

/-- The number of user records, decodable or not. -/
def count (d : DurableUsers) : Nat := d.users.size

/-- The diagnostic text. -/
def dump (d : DurableUsers) : String :=
  "SledUserDirectory \x7b user_count: " ++ toString d.count ++ ", .. \x7d"

/-- The user record under a key, decoded. -/
def find? (d : DurableUsers) (id : String) : Except StoreError (Option User) :=
  match d.users.find? id with
  | none => .ok none
  | some text => some <$> decodeRecord User.shape.read text

/-- The login information under a key, decoded. -/
def loginOf? (d : DurableUsers) (id : String) : Except StoreError (Option LoginInfo) :=
  match d.logins.find? id with
  | none => .ok none
  | some text => some <$> decodeRecord LoginInfo.shape.read text

/-- Creates a user unless a record is stored under its id. -/
def ensureExists (d : DurableUsers) (id : String) (now : Timestamp) : DurableUsers :=
  if (d.users.find? id).isSome then d
  else { d with users := d.users.insert id (User.fresh id now).toJson.compact }

/-- Keeps the login information under its user id. -/
def saveLoginInfo (d : DurableUsers) (info : LoginInfo) : DurableUsers :=
  { d with logins := d.logins.insert info.userId info.toJson.compact }

/-- The role of an existing user. -/
def getRole (d : DurableUsers) (id : String) : Except StoreError Role := do
  match ← d.find? id with
  | some u => pure u.role
  | none => throw .notFound

/-- Changes a user, created if missing, and marks it modified at `now`. -/
def modify (d : DurableUsers) (id : String) (f : User → User) (now : Timestamp) :
    Except StoreError DurableUsers := do
  let current := (← d.find? id).getD (User.fresh id now)
  let u := { f current with updatedAt := now }
  pure { d with users := d.users.insert id u.toJson.compact }

/-- Every user record, decoded in key order. -/
def allUsers (d : DurableUsers) : Except StoreError (List User) :=
  d.users.values.mapM (decodeRecord User.shape.read)

/-- A page of the users, newest first, joined with their login information. -/
def listUsers (d : DurableUsers) (p : Page) : Except StoreError (List AdminUser) := do
  let users ← d.allUsers
  (p.window (sortNewestFirst users)).mapM fun u => do
    return AdminUser.compose u (← d.loginOf? u.id)

/-- The profile of an existing user. -/
def getMe (d : DurableUsers) (id : String) : Except StoreError Me := do
  match ← d.find? id with
  | some u => return Me.compose u (← d.loginOf? id)
  | none => throw .notFound

end DurableUsers

end Warden
