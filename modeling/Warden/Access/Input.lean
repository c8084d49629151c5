import Warden.Access.Error
import Warden.Account.Role

/-!
# Reading caller input

The access services read roles, providers and capabilities from caller text with the lenient
readers of each type, and turn a failure into the matching input error. A role can only be
assigned when it is `user` or `admin`; `super_admin` comes from the configuration alone.
Blank capability entries are skipped, and the first bad entry is reported as the caller wrote
it.
-/

namespace Warden

/-- A role that may be assigned through the role-assignment path. -/
def parseAssignableRole (s : String) : Except AccessError Role :=
  match Role.parse? s with
  | some r => if r.isAssignable then .ok r else .error .invalidRole
  | none => .error .invalidRole

/-- A provider named by the caller. -/
def parseProvider (s : String) : Except AccessError Provider :=
  match Provider.parse? s with
  | some p => .ok p
  | none => .error .invalidProvider

/-- A capability named by the caller. -/
def parseCapability (s : String) : Except AccessError Capability :=
  match Capability.parse? s with
  | some c => .ok c
  | none => .error (.invalidCapability s)

/-- The capabilities named by the caller: blank entries skipped, the others read in order with
duplicates kept, and the first bad entry reported as the caller wrote it. -/
def parseCapabilities (ns : List String) : Except AccessError (List Capability) :=
  (ns.filter fun n => !(Text.trim n).isEmpty).mapM parseCapability

end Warden
