import Warden.Access.Error
import Warden.Access.Settings
import Warden.Account.User

/-!
# Reports

The JSON that a simulated run reports: outcomes as `{"ok": …}` or a named error with its kind
and message, durations with their parts and diagnostic text, and the access settings in
effect. Instants from the wall clock are reported as `"recent"`, since their value depends on
when the run happened; instants before 2020, and those past the year 9999, can only come from
stored records and are written out.
-/

namespace Warden

namespace Report

/-- A successful outcome. -/
def ok (v : Json) : Json := .obj [("ok", v)]

/-- A failed access request. -/
def error (e : AccessError) : Json :=
  .obj [("error", .str e.tag), ("kind", .str e.kind.name), ("message", .str e.message)]

/-- The outcome of an access request. -/
def outcome {α : Type} (enc : α → Json) : Except AccessError α → Json
  | .ok v => ok (enc v)
  | .error e => error e

/-- A failed store call. -/
def storeError (e : StoreError) : Json := .obj [("error", .str e.tag), ("message", .str e.message)]

/-- The outcome of a store call. -/
def storeOutcome {α : Type} (enc : α → Json) : Except StoreError α → Json
  | .ok v => ok (enc v)
  | .error e => storeError e

/-- An input the run cannot act on. -/
def badInput (message : String) : Json := .obj [("error", .str "BadInput"), ("message", .str message)]

/-- A duration: its whole seconds, its nanoseconds and its diagnostic text. -/
def duration (d : Duration) : Json :=
  .obj [("secs", .int d.secs), ("nanos", .int d.nanos), ("debug", .str d.text)]

/-- A page window. -/
def page (p : Page) : Json := .obj [("limit", .int p.limit), ("offset", .int p.offset)]

/-- The access settings in effect. -/
def settings (s : AccessSettings) : Json :=
  .obj [("session_ttl", duration s.sessionTtl), ("token_ttl_seconds", .int s.tokenTtlSeconds),
    ("allowed_model_ids", .arr (s.allowedModelIds.map .str)),
    ("super_admin_count", .int s.superAdmins.size), ("default_page_size", .int s.defaultPageSize),
    ("gateway_timeout", duration s.gatewayTimeout), ("login_timeout", duration s.loginTimeout)]

/-- The first instant of 2020, from which on instants come from the wall clock. -/
def wallClockEpoch : Int := 1577836800

/-- The first instant of the year 10000, where four-digit years end. -/
def fourDigitYearsEnd : Int := 253402300800

/-- An instant: `"recent"` when it may have come from the wall clock, that is from 2020 on in
a four-digit year, else its RFC 3339 text. -/
def stamp (t : Timestamp) : Json :=
  if t.secs ≥ wallClockEpoch ∧ t.secs < fourDigitYearsEnd then .str "recent" else .str t.rfc3339

end Report

end Warden
