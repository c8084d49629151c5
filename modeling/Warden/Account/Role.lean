import Warden.Text.Blank
import Warden.Text.Lower

/-!
# Roles

Every account holds one of three roles. Administrators and super administrators are
privileged; only a super administrator may assign roles, and only the two lower roles may be
assigned, so no request can make another super administrator.

A role is read from text by trimming blanks, lowercasing and comparing with its name. A stored
role that does not read back counts as the plain user role.
-/

namespace Warden

/-- The role of an account. -/
inductive Role where
  | user
  | admin
  | superAdmin
  deriving DecidableEq, Repr, Inhabited

namespace Role

/-- The name of a role, as stored and sent. -/
def name : Role → String
  | user => "user"
  | admin => "admin"
  | superAdmin => "super_admin"

/-- Reads a role: blanks around it are dropped and letter case is ignored. -/
def parse? (s : String) : Option Role :=
  match Text.lowercase (Text.trim s) with
  | "user" => some user
  | "admin" => some admin
  | "super_admin" => some superAdmin
  | _ => none

/-- Reads a stored role, taking the plain user role for anything unreadable. -/
def ofStored (s : String) : Role := (parse? s).getD user

/-- Administrators and super administrators. -/
def isPrivileged : Role → Bool
  | user => false
  | admin | superAdmin => true

/-- Only a super administrator assigns roles. -/
def canAssignRoles : Role → Bool
  | superAdmin => true
  | _ => false

/-- The roles that an assignment may give. -/
def isAssignable : Role → Bool
  | superAdmin => false
  | _ => true

/-- All roles, lowest first. -/
def all : List Role := [user, admin, superAdmin]

theorem parse?_name (r : Role) : parse? r.name = some r := by
  cases r <;> decide

end Role

end Warden
