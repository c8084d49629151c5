import Warden.Access.Settings
import Warden.Cli.Parse
import Warden.Settings.Files
import Warden.Store.Open

/-!
# Running the command line

A run reads the line, settles the configuration file (`--config`, else the default file of the
state directory), loads the configuration, and carries out the request:

* `config show` prints the configuration as pretty JSON;
* `config path` prints the path of the configuration file;
* `config validate` reports on the file and the configuration and always succeeds;
* `users list` prints a page of the user directory as a table, newest first;
* `users show` prints one user's profile.

The configuration is loaded before the request is looked at, and only the requests that need
it fail when it does not load. A failed request exits with status 1 and reports its failure
on standard error, with the chain of failures that caused it.
-/

namespace Warden

namespace Cli

/-- What a run leaves: its exit status and its two output streams. -/
structure Outcome where
  status : Nat
  stdout : String
  stderr : String
  deriving DecidableEq, Repr

/-- A successful run with its output. -/
def Outcome.printed (text : String) : Outcome := ⟨0, text, ""⟩

/-- Indents every line after the first. -/
def indentRest (pad s : String) : String := ("\n" ++ pad).intercalate (s.splitOn "\n")

/-- Pads a text with spaces on the left to a number of characters. -/
def padLeft (s : String) (width : Nat) : String :=
  String.ofList (List.replicate (width - s.length) ' ') ++ s

/-- The failure of a request: its message and the failures beneath it, outermost first. -/
structure Failure where
  message : String
  causes : List String
  deriving DecidableEq, Repr

namespace Failure

/-- The report of a failure: the message, then the causes, numbered when more than one, each
indented under its number. -/
def render (f : Failure) : String :=
  let causes := match f.causes with
    | [] => ""
    | [c] => "\n\nCaused by:\n    " ++ indentRest "    " c
    | cs => "\n\nCaused by:" ++ String.join (cs.zipIdx.map (fun (c, n) =>
        "\n" ++ padLeft (toString n) 5 ++ ": " ++ indentRest "       " c))
  "Error: " ++ f.message ++ causes ++ "\n"

/-- The outcome of a failed request. -/
def outcome (f : Failure) : Outcome := ⟨1, "", f.render⟩

end Failure

/-- The failure of a configuration that does not load; the file system's and the reader's
failures are carried beneath it. -/
def configFailure : ConfigError → Failure
  | .io m => ⟨(ConfigError.io m).message, [m]⟩
  | .parse m => ⟨(ConfigError.parse m).message, [m]⟩
  | .validation m => ⟨(ConfigError.validation m).message, []⟩
  | .fault m => ⟨m, []⟩

/-- Where the reader breaks down when it cuts a text inside a character. -/
def faultPlace : String :=
  "/usr/local/cargo/registry/src/index.crates.io-1949cf8c6b5b557f/json5-0.4.1/src/de.rs:592:29"

/-- The outcome of a run that stops on a fault of the reader: nothing on standard output, the
report of the main thread on standard error, and status 101. -/
def faultOutcome (m : String) : Outcome :=
  ⟨101, "", "thread 'main' panicked at " ++ faultPlace ++ ":\n" ++ m ++
    "\nnote: run with `RUST_BACKTRACE=1` environment variable to display a backtrace\n"⟩

/-- The failures beneath a store failure. -/
def storeCauses : StoreError → List String
  | .serialization m => [(StoreError.serialization m).message, m]
  | e => [e.message]

/-! ## config -/

/-- The report of `config validate`. -/
def validateReport (env : String → Option String) (fs : Files) (path : String)
    (loaded : Except ConfigError Config) : String :=
  let fileLine := if fs.present (fs.resolve path) then "  File: " ++ path
    else "⚠ Config file not found: " ++ path ++ " (using defaults)"
  let body := match loaded with
    | .ok c =>
      let s := AccessSettings.ofConfig c
      ["✓ Configuration is valid",
        "  Session TTL: " ++ toString c.auth.sessionTtlDays ++ " days",
        "  Token TTL: " ++ toString s.tokenTtlSeconds ++ " seconds",
        "  Allowed models: " ++ toString s.allowedModelIds.length,
        "  Data dir: " ++ Config.dataDirIn env c,
        if s.superAdmins.size = 0 then "⚠ No super-admin emails configured; nobody is promoted at login"
        else "  Super-admin emails: " ++ toString s.superAdmins.size]
    | .error (.parse m) => ["✗ Syntax error: " ++ m]
    | .error e => ["✗ " ++ e.message]
  String.join ((["", "Validating Configuration", fileLine] ++ body).map (· ++ "\n"))

/-! ## users -/

/-- A row of the user table. -/
def tableRow (id role email created : String) : String :=
  padRight id 36 ++ " " ++ padRight role 12 ++ " " ++ padRight email 32 ++ " " ++ padRight created 20

/-- The user table, or a note that the page is empty. -/
def userTable (users : List AdminUser) : String :=
  if users.isEmpty then "ℹ No users found.\n"
  else
    String.join ((tableRow "ID" "ROLE" "EMAIL" "CREATED" :: String.ofList (List.replicate 103 '-') ::
      users.map (fun u => tableRow u.id u.role.name u.email u.createdAt.spaced)).map (· ++ "\n"))

/-- Carries out a request on the user directory. -/
def runUsers (env : String → Option String) (fs : Files) (c : Config) (r : Request) : Outcome :=
  let dir := Config.dataDirIn env c
  match DurableUsers.openIn fs dir with
  | .error e => Failure.outcome ⟨"Failed to open user directory at " ++ dir, storeCauses e⟩
  | .ok (_, d) =>
    match r with
    | .listUsers limit offset =>
      match d.listUsers ((AccessSettings.ofConfig c).page limit offset) with
      | .ok users => .printed (userTable users)
      | .error e => Failure.outcome ⟨"Failed to list users", storeCauses e⟩
    | .showUser id =>
      match d.getMe id with
      | .ok me => .printed (me.toJson.prettyText ++ "\n")
      | .error .notFound => Failure.outcome ⟨"User not found: " ++ id, []⟩
      | .error e => Failure.outcome ⟨"Failed to read user", storeCauses e⟩
    | _ => .printed ""

/-! ## A run -/

/-- Runs the program on a command line, in an environment and on a file system. -/
def run (env : String → Option String) (fs : Files) (words : List String) : Outcome :=
  match readLine env words with
  | .error (.shown text) => ⟨0, text, ""⟩
  | .error (.refused text) => ⟨2, "", text⟩
  | .ok inv =>
    let path := inv.configFile.getD (Config.defaultPath env)
    let loaded := Config.loadEffective env fs path
    if let .error (.fault m) := loaded then faultOutcome m else
    match inv.request with
    | .configPath => .printed (path ++ "\n")
    | .validateConfig => .printed (validateReport env fs path loaded)
    | .showConfig =>
      match loaded with
      | .ok c => .printed (c.fileText ++ "\n")
      | .error e => (configFailure e).outcome
    | r =>
      match loaded with
      | .ok c => runUsers env fs c r
      | .error e => (configFailure e).outcome

end Cli

end Warden
