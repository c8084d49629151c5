import Warden.Access.Error

/-!
# Injected faults

A simulated world can make any downstream call fail. A fault is set on a call and stays until
it is cleared; a faulted call fails before it reaches the store or service behind it.

Store calls fail as stores do (record not found, backend failure, undecodable record) and
service calls as services do (unavailable, rejected, backend failure); a call of either kind
can also hang, sleeping for an hour before it fails as a call that hung. A mode of one kind cannot be set on a
call of the other, and a hang needs the virtual clock, since on the wall clock it would
really take an hour.
-/

namespace Warden

/-- Whether a call goes to a store or to a service. -/
inductive CallKind where
  | store
  | service
  deriving DecidableEq, Repr

/-- A downstream call that a fault can be set on. -/
inductive Target where
  | sessionSave | sessionGet | sessionDelete
  | ensureExists | saveLoginInfo | getRole | setRole | listUsers | getMe | setNickname
  | authorizationUrl | loginByOAuth | loginInfo
  | upsertProvider | deleteProvider | listProviders | upsertModel | deleteModel | listModels
  | issueToken
  deriving DecidableEq, Repr

namespace Target

/-- The name of a call. -/
def name : Target → String
  | sessionSave => "sessions.save"
  | sessionGet => "sessions.get"
  | sessionDelete => "sessions.delete"
  | ensureExists => "users.ensure_exists"
  | saveLoginInfo => "users.save_login_info"
  | getRole => "users.get_role"
  | setRole => "users.set_role"
  | listUsers => "users.list_users"
  | getMe => "users.get_me"
  | setNickname => "users.set_nickname"
  | authorizationUrl => "gateway.authorization_url"
  | loginByOAuth => "gateway.login_by_oauth"
  | loginInfo => "gateway.current_user_login_info"
  | upsertProvider => "admin.upsert_provider_config"
  | deleteProvider => "admin.delete_provider_config"
  | listProviders => "admin.list_provider_configs"
  | upsertModel => "admin.upsert_model"
  | deleteModel => "admin.delete_model"
  | listModels => "admin.list_models"
  | issueToken => "issuer.issue_token"

/-- Every call. -/
def all : List Target :=
  [sessionSave, sessionGet, sessionDelete, ensureExists, saveLoginInfo, getRole, setRole, listUsers,
    getMe, setNickname, authorizationUrl, loginByOAuth, loginInfo, upsertProvider, deleteProvider,
    listProviders, upsertModel, deleteModel, listModels, issueToken]

/-- The call of a name. -/
def ofName? (s : String) : Option Target := all.find? (·.name == s)

/-- Whether a call goes to a store or a service. -/
def kind : Target → CallKind
  | sessionSave | sessionGet | sessionDelete | ensureExists | saveLoginInfo | getRole | setRole
  | listUsers | getMe | setNickname => .store
  | _ => .service

end Target

/-- How a faulted call fails. -/
inductive Mode where
  | notFound
  | backend
  | serialization
  | unavailable
  | rejected
  /-- Sleeps for an hour, then fails. -/
  | hang
  deriving DecidableEq, Repr

namespace Mode

/-- The kind of call a mode belongs to, when only one. -/
def onlyFor : Mode → Option CallKind
  | notFound | serialization => some .store
  | unavailable | rejected => some .service
  | backend | hang => none

/-- The failure of a store call in a mode. -/
def storeError : Mode → StoreError
  | notFound => .notFound
  | serialization => .serialization "expected value at line 1 column 1"
  | _ => .backend "injected failure"

/-- The failure of a service call in a mode. -/
def gatewayError : Mode → GatewayError
  | unavailable => .unavailable "injected"
  | rejected => .rejected "injected"
  | _ => .backend "injected"

end Mode

/-- A change to the faults: set a mode on a call, or clear it. -/
structure FaultChange where
  target : Target
  mode : Option Mode
  deriving DecidableEq, Repr

/-- Reads a change of fault from a call name and a mode name (`ok` clears), checking that the
mode fits the call and that a hang has a virtual clock. -/
def FaultChange.parse (target mode : String) (virtualClock : Bool) : Except String FaultChange := do
  let some t := Target.ofName? target | throw ("unknown fault target `" ++ target ++ "`")
  let m ← match mode with
    | "ok" => pure none
    | "not_found" => pure (some Mode.notFound)
    | "backend" => pure (some Mode.backend)
    | "serialization" => pure (some Mode.serialization)
    | "unavailable" => pure (some Mode.unavailable)
    | "rejected" => pure (some Mode.rejected)
    | "hang" => pure (some Mode.hang)
    | _ => throw ("unknown fault mode `" ++ mode ++ "`")
  match m with
  | some m' =>
    if m'.onlyFor = some .service ∧ t.kind = .store then throw "gateway-only fault mode"
    if m'.onlyFor = some .store ∧ t.kind = .service then throw "store-only fault mode"
    if m' = .hang ∧ !virtualClock then throw "hang needs the memory store"
  | none => pure ()
  pure ⟨t, m⟩

/-- The faults in force: at most one mode per call. -/
structure Faults where
  modes : List (Target × Mode)
  deriving DecidableEq, Repr

namespace Faults

/-- No faults. -/
def none : Faults := ⟨[]⟩

/-- The mode set on a call. -/
def modeOf? (f : Faults) (t : Target) : Option Mode := f.modes.lookup t

/-- Applies a change. -/
def apply (f : Faults) (c : FaultChange) : Faults :=
  let rest := f.modes.filter (·.1 != c.target)
  match c.mode with
  | some m => ⟨(c.target, m) :: rest⟩
  | Option.none => ⟨rest⟩

end Faults

end Warden
