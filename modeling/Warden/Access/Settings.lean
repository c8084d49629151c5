import Warden.Account.Field
import Warden.Account.Page
import Warden.Settings.Config
import Warden.Text.Quoted
import Warden.Time.Duration

/-!
# Access settings

The settings the access services run with: the session lifetime, the lifetime and model list
of data-plane tokens, the addresses promoted to super-admin at login, the default page size,
and the deadlines of downstream calls and of a whole login.

Super-admin addresses are compared in normal form (trimmed, lowercased), so that the
allow-list matches however the identity provider writes an address; blank entries never
match anything.
-/

namespace Warden

/-- The addresses promoted to super-admin at login, in normal form, each once. -/
structure SuperAdmins where
  emails : List String
  deriving DecidableEq, Repr

namespace SuperAdmins

/-- The set of the normal forms of the non-blank entries. -/
def ofList (emails : List String) : SuperAdmins :=
  ⟨(emails.map normalEmail).foldl (fun acc e => if e.isEmpty || acc.contains e then acc else acc ++ [e]) []⟩

/-- Whether an address is on the list, compared in normal form; a blank one never is. -/
def contains (s : SuperAdmins) (email : String) : Bool :=
  let e := normalEmail email
  !s.emails.isEmpty && !e.isEmpty && s.emails.contains e

/-- The number of addresses. -/
def size (s : SuperAdmins) : Nat := s.emails.length

/-- The diagnostic text. -/
def dump (s : SuperAdmins) : String :=
  "SuperAdminEmails(\x7b" ++ ", ".intercalate (s.emails.map Text.quoted) ++ "\x7d)"

end SuperAdmins

/-- The settings of the access services. -/
structure AccessSettings where
  sessionTtl : Duration
  tokenTtlSeconds : Int
  allowedModelIds : List String
  superAdmins : SuperAdmins
  defaultPageSize : Nat
  gatewayTimeout : Duration
  loginTimeout : Duration

namespace AccessSettings

/-- A number of days as a duration, saturating at the largest one. -/
def days (n : Nat) : Duration := Duration.ofDaysSaturating n

/-- The defaults: sessions of a week, tokens of an hour, pages of 50, calls bounded by five
seconds and logins by ten. -/
def default : AccessSettings :=
  ⟨days 7, 3600, [], ⟨[]⟩, Page.defaultLimit, Duration.ofSecs 5, Duration.ofSecs 10⟩

/-- The settings of a configuration. -/
def ofConfig (c : Config) : AccessSettings :=
  ⟨days c.auth.sessionTtlDays, c.gateway.tokenTtlSeconds, c.gateway.allowedModelIds,
    SuperAdmins.ofList c.auth.superAdminEmails, c.defaultPageSize,
    Duration.ofSecs c.timeouts.gatewaySecs, Duration.ofSecs c.timeouts.loginSecs⟩

/-- The page of a listing request, with this deployment's default size. -/
def page (s : AccessSettings) (limit offset : Option Int) : Page :=
  Page.normalize limit offset s.defaultPageSize

/-- The diagnostic text. -/
def dump (s : AccessSettings) : String :=
  "AuthConfig \x7b session_ttl: " ++ s.sessionTtl.text
    ++ ", token_ttl_seconds: " ++ toString s.tokenTtlSeconds
    ++ ", allowed_model_ids: " ++ Text.quotedList s.allowedModelIds
    ++ ", super_admin_emails: " ++ s.superAdmins.dump
    ++ ", default_page_size: " ++ toString s.defaultPageSize
    ++ ", gateway_timeout: " ++ s.gatewayTimeout.text
    ++ ", login_timeout: " ++ s.loginTimeout.text ++ " \x7d"

end AccessSettings

end Warden
