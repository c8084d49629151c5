import Warden.Json.Decode

/-!
# The configuration file

The settings of a deployment, in six groups: sessions and bootstrap roles, data-plane tokens,
listings, downstream deadlines, storage, and global switches. Every setting has a default, so
an empty file (or none) is a valid configuration.

Validation names the first setting that is out of bounds, in a fixed order. Three settings can
be overridden from the environment after loading; an override that does not parse as a number
is ignored, so a typo leaves the file's value in place.

The file lives in the state directory: `LLM_STUDIO_STATE_DIR` when set, otherwise
`.llm-studio` in the home directory. Paths are joined as file-system paths: a name joined to an
empty path is the bare name, and an absolute name replaces what it is joined to.
-/

namespace Warden

/-- How log lines are written. -/
inductive LogFormat where
  | pretty
  | json
  deriving DecidableEq, Repr

namespace LogFormat

/-- The name of a format. -/
def name : LogFormat → String
  | pretty => "pretty"
  | json => "json"

end LogFormat

/-- Session and bootstrap-role settings. -/
structure AuthSettings where
  sessionTtlDays : Nat
  superAdminEmails : List String
  sessionPrefix : String
  deriving DecidableEq, Repr

/-- Data-plane token settings. -/
structure GatewaySettings where
  tokenTtlSeconds : Int
  allowedModelIds : List String
  deriving DecidableEq, Repr

/-- Downstream call deadlines, in seconds. -/
structure TimeoutSettings where
  gatewaySecs : Nat
  loginSecs : Nat
  deriving DecidableEq, Repr

/-- Global switches. -/
structure GlobalSettings where
  debug : Bool
  logFormat : LogFormat
  deriving DecidableEq, Repr

/-- A whole configuration. -/
structure Config where
  auth : AuthSettings
  gateway : GatewaySettings
  defaultPageSize : Nat
  timeouts : TimeoutSettings
  dataDir : Option String
  global : GlobalSettings
  deriving DecidableEq, Repr

namespace Config

/-- The default session lifetime, in days. -/
def defaultSessionTtlDays : Nat := 7

/-- The longest session lifetime allowed, in days. -/
def maxSessionTtlDays : Nat := 3650

/-- The default key prefix of stored sessions. -/
def defaultSessionPrefix : String := "llmstudio:sess:"

/-- Default session settings. -/
def defaultAuth : AuthSettings := ⟨defaultSessionTtlDays, [], defaultSessionPrefix⟩

/-- Default token settings. -/
def defaultGateway : GatewaySettings := ⟨3600, []⟩

/-- Default deadlines. -/
def defaultTimeouts : TimeoutSettings := ⟨5, 10⟩

/-- Default switches. -/
def defaultGlobal : GlobalSettings := ⟨false, .pretty⟩

/-- The default configuration. -/
def default : Config := ⟨defaultAuth, defaultGateway, 50, defaultTimeouts, none, defaultGlobal⟩

/-- The first setting out of bounds, if any. -/
def validate (c : Config) : Except String Unit :=
  if c.auth.sessionTtlDays = 0 then .error "auth.sessionTtlDays must be positive"
  else if c.auth.sessionTtlDays > maxSessionTtlDays then
    .error ("auth.sessionTtlDays must be at most " ++ toString maxSessionTtlDays)
  else if c.gateway.tokenTtlSeconds ≤ 0 then .error "llmGateway.tokenTtlSeconds must be positive"
  else if c.defaultPageSize = 0 then .error "listing.defaultPageSize must be positive"
  else if c.timeouts.gatewaySecs = 0 ∨ c.timeouts.loginSecs = 0 then .error "timeouts must be positive"
  else .ok ()

/-! ## The JSON form -/

/-- The JSON form of session settings. -/
def authJson (a : AuthSettings) : Json :=
  .obj [("sessionTtlDays", .int a.sessionTtlDays), ("superAdminEmails", .arr (a.superAdminEmails.map .str)),
    ("sessionPrefix", .str a.sessionPrefix)]

/-- The JSON form of token settings. -/
def gatewayJson (g : GatewaySettings) : Json :=
  .obj [("tokenTtlSeconds", .int g.tokenTtlSeconds), ("allowedModelIds", .arr (g.allowedModelIds.map .str))]

/-- The JSON form, with camel-case keys in declaration order. -/
def toJson (c : Config) : Json :=
  .obj [
    ("auth", authJson c.auth),
    ("llmGateway", gatewayJson c.gateway),
    ("listing", .obj [("defaultPageSize", .int c.defaultPageSize)]),
    ("timeouts", .obj [("gatewaySecs", .int c.timeouts.gatewaySecs),
      ("loginSecs", .int c.timeouts.loginSecs)]),
    ("storage", .obj [("dataDir", .ofOption c.dataDir)]),
    ("settings", .obj [("debug", .bool c.global.debug),
      ("logFormat", .str c.global.logFormat.name)])]

/-- The file text of a configuration: pretty JSON. -/
def fileText (c : Config) : String := c.toJson.prettyText

/-- Reads a list of texts. -/
def readTexts : Json.Reader (List String) := Json.readList Json.readString

/-- The JSON record of session settings. -/
def authShape : Json.Shape AuthSettings where
  name := "AuthSettings"
  fields := [
    ⟨"sessionTtlDays", .defaulted, fun a => do return { a with sessionTtlDays := ← Json.readUnsignedAs "u64" }⟩,
    ⟨"superAdminEmails", .defaulted, fun a => do return { a with superAdminEmails := ← readTexts }⟩,
    ⟨"sessionPrefix", .defaulted, fun a => do return { a with sessionPrefix := ← Json.readString }⟩]
  init := defaultAuth

/-- The JSON record of token settings. -/
def gatewayShape : Json.Shape GatewaySettings where
  name := "LlmGatewaySettings"
  fields := [
    ⟨"tokenTtlSeconds", .defaulted, fun g => do return { g with tokenTtlSeconds := ← Json.readI64 }⟩,
    ⟨"allowedModelIds", .defaulted, fun g => do return { g with allowedModelIds := ← readTexts }⟩]
  init := defaultGateway

/-- The JSON record of listing settings. -/
def listingShape : Json.Shape Nat where
  name := "ListingSettings"
  fields := [⟨"defaultPageSize", .defaulted, fun _ => Json.readUnsignedAs "usize"⟩]
  init := 50

/-- The JSON record of deadlines. -/
def timeoutsShape : Json.Shape TimeoutSettings where
  name := "TimeoutSettings"
  fields := [
    ⟨"gatewaySecs", .defaulted, fun t => do return { t with gatewaySecs := ← Json.readUnsignedAs "u64" }⟩,
    ⟨"loginSecs", .defaulted, fun t => do return { t with loginSecs := ← Json.readUnsignedAs "u64" }⟩]
  init := defaultTimeouts

/-- The JSON record of storage settings. -/
def storageShape : Json.Shape (Option String) where
  name := "StorageSettings"
  fields := [⟨"dataDir", .defaulted, fun _ => Json.readOption (Json.readStringAs "path string")⟩]
  init := none

/-- Reads a log format by its exact name. -/
def readLogFormat : Json.Reader LogFormat := do
  match ← Json.readVariant ["pretty", "json"] with
  | 1 => pure .json
  | _ => pure .pretty

/-- The JSON record of global switches. -/
def globalShape : Json.Shape GlobalSettings where
  name := "GlobalSettings"
  fields := [
    ⟨"debug", .defaulted, fun g => do return { g with debug := ← Json.readBool }⟩,
    ⟨"logFormat", .defaulted, fun g => do return { g with logFormat := ← readLogFormat }⟩]
  init := defaultGlobal

/-- The JSON record of a configuration. -/
def shape : Json.Shape Config where
  name := "Config"
  fields := [
    ⟨"auth", .defaulted, fun c => do return { c with auth := ← authShape.read }⟩,
    ⟨"llmGateway", .defaulted, fun c => do return { c with gateway := ← gatewayShape.read }⟩,
    ⟨"listing", .defaulted, fun c => do return { c with defaultPageSize := ← listingShape.read }⟩,
    ⟨"timeouts", .defaulted, fun c => do return { c with timeouts := ← timeoutsShape.read }⟩,
    ⟨"storage", .defaulted, fun c => do return { c with dataDir := ← storageShape.read }⟩,
    ⟨"settings", .defaulted, fun c => do return { c with global := ← globalShape.read }⟩]
  init := default

/-! ## The environment -/

/-- The value of decimal digits, if the text is a non-empty run of them. -/
def digitsValue (cs : List Char) : Option Nat :=
  if cs.isEmpty || !cs.all Char.isDigit then none
  else some (cs.foldl (fun n c => n * 10 + (c.toNat - '0'.toNat)) 0)

/-- Reads an unsigned 64-bit integer as the standard parser does: an optional `+`, then
decimal digits only. -/
def parseU64 (s : String) : Option Nat :=
  let cs := match s.toList with
    | '+' :: r => r
    | r => r
  match digitsValue cs with
  | some n => if n ≤ 18446744073709551615 then some n else none
  | none => none

/-- Reads a signed 64-bit integer as the standard parser does: an optional sign, then decimal
digits only. -/
def parseI64 (s : String) : Option Int :=
  let (neg, cs) := match s.toList with
    | '+' :: r => (false, r)
    | '-' :: r => (true, r)
    | r => (false, r)
  match digitsValue cs with
  | some n =>
    let v : Int := if neg then -(n : Int) else n
    if -9223372036854775808 ≤ v ∧ v ≤ 9223372036854775807 then some v else none
  | none => none

/-- Applies the environment's overrides: the super-admin list (comma-separated, entries
trimmed, empty ones dropped), the session lifetime in days and the token lifetime in seconds
(trimmed; ignored when they do not parse). -/
def withEnvOverrides (env : String → Option String) (c : Config) : Config :=
  let c := match env "LLM_STUDIO_SUPER_ADMIN_EMAILS" with
    | some v =>
      let emails := ((v.splitOn ",").map Text.trim).filter (· ≠ "")
      { c with auth := { c.auth with superAdminEmails := emails } }
    | none => c
  let c := match (env "LLM_STUDIO_SESSION_TTL_DAYS").bind (parseU64 ∘ Text.trim) with
    | some d => { c with auth := { c.auth with sessionTtlDays := d } }
    | none => c
  match (env "LLM_STUDIO_TOKEN_TTL_SECONDS").bind (parseI64 ∘ Text.trim) with
  | some s => { c with gateway := { c.gateway with tokenTtlSeconds := s } }
  | none => c

/-! ## Paths -/

/-- Joins a name onto a path: an absolute name replaces the path, an empty path gives the
bare name, and a separator is added unless the path ends with one. -/
def joinPath (base name : String) : String :=
  if name.startsWith "/" then name
  else if base.isEmpty then name
  else if base.endsWith "/" then base ++ name
  else base ++ "/" ++ name

/-- The state directory: `LLM_STUDIO_STATE_DIR`, else `.llm-studio` in the home directory,
else `.llm-studio` itself. -/
def stateDir (env : String → Option String) : String :=
  match env "LLM_STUDIO_STATE_DIR" with
  | some d => d
  | none =>
    match env "HOME" with
    | some h => if h.isEmpty then ".llm-studio" else joinPath h ".llm-studio"
    | none => ".llm-studio"

/-- The default configuration file. -/
def defaultPath (env : String → Option String) : String := joinPath (stateDir env) "llm-studio.json"

/-- The directory of the databases: the configured one, else `data` in the state directory. -/
def dataDirIn (env : String → Option String) (c : Config) : String :=
  match c.dataDir with
  | some d => d
  | none => joinPath (stateDir env) "data"

end Config

end Warden
