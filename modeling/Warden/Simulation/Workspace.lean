import Warden.Cli.Run
import Warden.Simulation.Scenario

/-!
# Workspaces

A workspace is a fresh directory prepared for one run of the command line: possibly a
configuration file in it, an environment whose state directory is the workspace and whose home
is `home` inside it, and possibly a user directory filled in beforehand, with raw records and
with calls made on it, or a regular file where the data directory would be.

The same directory serves the probes of the configuration file and of the durable stores:
loading the default file, loading an absent file, saving below missing directories and below
a regular file, and opening a store where a regular file stands.
-/

namespace Warden

/-- A call made on the user directory before a run. -/
inductive Seed where
  | ensureUser (user : String)
  | setRole (user : String) (role : Role)
  | setNickname (user nickname : String)
  | saveLoginInfo (info : LoginInfo)
  deriving DecidableEq, Repr

/-- Applies a call to a user directory at an instant; a call that fails changes nothing. -/
def Seed.apply (d : DurableUsers) (now : Timestamp) : Seed → DurableUsers
  | .ensureUser u => d.ensureExists u now
  | .setRole u r => (d.modify u (fun x => { x with role := r }) now).toOption.getD d
  | .setNickname u n => (d.modify u (fun x => { x with nickname := n }) now).toOption.getD d
  | .saveLoginInfo i => d.saveLoginInfo i

/-- A directory prepared for a run of the command line. -/
structure Workspace where
  /-- The absolute path of the directory. -/
  dir : String
  /-- The text of `llm-studio.json` in the directory. -/
  config : Option String
  /-- Variables set (or unset, with none) over the base environment. -/
  envChanges : List (String × Option String)
  /-- The data directory, relative to the workspace. -/
  dataDir : String
  rawUsers : List (String × String)
  rawLogins : List (String × String)
  seeds : List Seed
  dataDirIsFile : Bool
  deriving DecidableEq, Repr

namespace Workspace

/-- The environment: the state directory is the workspace and the home is `home` in it, then
the changes. -/
def env (w : Workspace) (name : String) : Option String :=
  match w.envChanges.find? (·.1 == name) with
  | some (_, v) => v
  | none =>
    if name == "LLM_STUDIO_STATE_DIR" then some w.dir
    else if name == "HOME" then some (Config.joinPath w.dir "home")
    else none

/-- A file system holding only the directory, which is the working directory. -/
def bare (dir : String) : Files :=
  let fs := Files.empty (pathComponents dir)
  (fs.createDirAll fs.cwd).toOption.getD fs

/-- Writes a file, making the directories above it first; a failure changes nothing. -/
def place (fs : Files) (path : String) (text : String) : Files :=
  let p := fs.resolve path
  match fs.createDirAll p.dropLast with
  | .ok fs' => (fs'.write p text).toOption.getD fs'
  | .error _ => fs

/-- Whether the user directory is filled in before the run. -/
def fillsUsers (w : Workspace) : Bool :=
  !w.rawUsers.isEmpty || !w.rawLogins.isEmpty || !w.seeds.isEmpty

/-- The user directory filled in: raw records first, then the calls in order. -/
def filledUsers (w : Workspace) (d : DurableUsers) : DurableUsers :=
  let d := w.rawUsers.foldl (fun d (k, v) => { d with users := d.users.insert k v }) d
  let d := w.rawLogins.foldl (fun d (k, v) => { d with logins := d.logins.insert k v }) d
  w.seeds.foldl (fun d s => s.apply d wallStart) d

/-- The file system at the start of the run. -/
def files (w : Workspace) : Files :=
  let fs := bare w.dir
  let fs := match w.config with
    | some text => place fs "llm-studio.json" text
    | none => fs
  let fs := if w.fillsUsers then
      match DurableUsers.openIn fs w.dataDir with
      | .ok (fs', d) => DurableUsers.storeIn fs' w.dataDir (w.filledUsers d)
      | .error _ => fs
    else fs
  if w.dataDirIsFile then place fs w.dataDir "" else fs

/-- Runs the command line in the workspace. -/
def run (w : Workspace) (words : List String) : Cli.Outcome := Cli.run w.env w.files words

end Workspace

/-! ## Probes of the configuration file and the stores -/

namespace Probe

/-- A file system with the directory and, if given, the default configuration file in it. -/
def withConfig (dir : String) (text : Option String) : Files :=
  match text with
  | some t => Workspace.place (Workspace.bare dir) "llm-studio.json" t
  | none => Workspace.bare dir

/-- Loads the default configuration file with the state directory set to the directory. -/
def loadDefault (dir : String) (text : Option String) : Except ConfigError Config :=
  Config.loadDefault (fun n => if n == "LLM_STUDIO_STATE_DIR" then some dir else none) (withConfig dir text)

/-- Loads an absent file. -/
def loadMissing (dir : String) (text : Option String) : Except ConfigError Config :=
  Config.loadFile (withConfig dir text) (Config.joinPath dir "missing.json")

/-- Saves the configuration of a text (the default when it does not read) below two missing
directories; gives the saved text and what loading it back gives. -/
def save (dir : String) (text : Option String) :
    Except ConfigError (String × Except ConfigError Config) := do
  let c := (text.bind (fun t => (Config.ofText t).toOption)).getD Config.default
  let path := Config.joinPath dir "nested/deeper/saved.json"
  let fs ← Config.saveFile (withConfig dir text) path c
  let written := (fs.read (fs.resolve path)).toOption.getD ""
  pure (written, Config.loadFile fs path)

/-- Saves a configuration below a regular file. -/
def saveBlocked (dir : String) : Except ConfigError Unit := do
  let fs := Workspace.place (Workspace.bare dir) "blocker" ""
  let _ ← Config.saveFile fs (Config.joinPath dir "blocker/saved.json") Config.default
  pure ()

/-- The state directory, default file and data directory of a home directory. -/
def home (h : String) : String × String × String :=
  let env := fun n => if n == "HOME" then some h else none
  (Config.stateDir env, Config.defaultPath env, Config.dataDirIn env Config.default)

/-- Opens the user directory and the session store where a regular file stands. -/
def openAtFile (dir : String) : Except StoreError Unit × Except StoreError Unit :=
  let fs := Workspace.place (Workspace.bare dir) "file" ""
  let path := Config.joinPath dir "file"
  ((DurableUsers.openIn fs path).map (fun _ => ()),
    (DurableSessions.openIn fs path Config.defaultSessionPrefix).map (fun _ => ()))

end Probe

end Warden
