import Warden.Account.Role

/-!
# Operations and clearances

The guarded operations of the service and the clearance each one needs. Reading or changing
one's own profile and asking for a gateway token need only a signed-in caller; assigning roles
needs a super administrator; every user listing and model-gateway administration needs an
administrator.
-/

namespace Warden

/-- The least standing a caller needs for an operation. -/
inductive Clearance where
  | signedIn
  | admin
  | superAdmin
  deriving DecidableEq, Repr

namespace Clearance

/-- Whether a role meets the clearance. -/
def admits : Clearance → Role → Bool
  | signedIn, _ => true
  | admin, r => r.isPrivileged
  | superAdmin, r => r.canAssignRoles

/-- The name of a clearance in reports. -/
def label : Clearance → String
  | signedIn => "Authenticated"
  | admin => "Admin"
  | superAdmin => "SuperAdmin"

end Clearance

/-- An operation that the access policy guards. -/
inductive Operation where
  | getOwnProfile
  | updateOwnProfile
  | listUsers
  | assignRole
  | listProviderConfigs
  | upsertProviderConfig
  | deleteProviderConfig
  | listModels
  | upsertModel
  | deleteModel
  | issueToken
  deriving DecidableEq, Repr

namespace Operation

/-- The clearance an operation needs. -/
def clearance : Operation → Clearance
  | getOwnProfile | updateOwnProfile | issueToken => .signedIn
  | assignRole => .superAdmin
  | listUsers | listProviderConfigs | upsertProviderConfig | deleteProviderConfig
  | listModels | upsertModel | deleteModel => .admin

/-- The name of an operation. -/
def name : Operation → String
  | getOwnProfile => "get_own_profile"
  | updateOwnProfile => "update_own_profile"
  | listUsers => "list_users"
  | assignRole => "assign_role"
  | listProviderConfigs => "list_provider_configs"
  | upsertProviderConfig => "upsert_provider_config"
  | deleteProviderConfig => "delete_provider_config"
  | listModels => "list_models"
  | upsertModel => "upsert_model"
  | deleteModel => "delete_model"
  | issueToken => "issue_token"

/-- Every operation. -/
def all : List Operation :=
  [getOwnProfile, updateOwnProfile, listUsers, assignRole, listProviderConfigs,
    upsertProviderConfig, deleteProviderConfig, listModels, upsertModel, deleteModel, issueToken]

/-- The operation of a name. -/
def ofName? (s : String) : Option Operation := all.find? (·.name == s)

end Operation

end Warden
