import Warden.Cli.Run
import Warden.Store.TreeFile

/-!
# The `llm-studio` executable

The program itself is `Cli.run`, a function of the environment, the file system and the words
of the line. This module only gathers what it looks at: the variables it reads, the working
directory, the configuration file, and the user directory in the data directory, whose trees
are kept as `users.jsonl` and `login_info.jsonl` in its `users` database directory. Then it
prints the two outputs and exits with the status.
-/

namespace Warden

namespace Executable

/-- The environment variables the program reads. -/
def environmentNames : List String :=
  ["LLM_STUDIO_CONFIG_PATH", "LLM_STUDIO_STATE_DIR", "HOME", "LLM_STUDIO_SUPER_ADMIN_EMAILS",
    "LLM_STUDIO_SESSION_TTL_DAYS", "LLM_STUDIO_TOKEN_TTL_SECONDS"]

/-- The file-system failure of an error of the operating system. -/
def failureOf (e : IO.Error) : IoFailure :=
  match e with
  | .inappropriateType _ 20 _ => .notDirectory
  | .inappropriateType _ _ _ => .isDirectory
  | .otherError 21 _ => .isDirectory
  | .otherError 20 _ => .notDirectory
  | _ => .notFound

/-- The text of a file, or how reading it failed. -/
def readText (path : String) : IO (Except IoFailure String) := do
  try
    return .ok (← IO.FS.readFile path)
  catch e =>
    return .error (failureOf e)

/-- Marks every directory above a path as a directory. -/
def withParents (fs : Files) (p : List String) : Files :=
  (List.range p.length).foldl (fun fs n =>
    let q := p.take n
    if q.isEmpty || (fs.at? q).isSome then fs else fs.set q .directory) fs

/-- Records what stands at a path: its text, a directory, or nothing known. -/
def visit (fs : Files) (path : String) : IO Files := do
  let p := lexicalPath (fs.resolve path)
  match ← readText path with
  | .ok text => return (withParents fs p).set p (.file text)
  | .error .isDirectory => return (withParents fs p).set p .directory
  | .error _ => return fs

/-- Records the user directory of a data directory. -/
def visitUsers (fs : Files) (dir : String) : IO Files := do
  let fs ← visit fs dir
  let db := Config.joinPath dir "users"
  let users ← readText (Config.joinPath db "users.jsonl")
  let logins ← readText (Config.joinPath db "login_info.jsonl")
  match users, logins with
  | .error _, .error _ => return fs
  | _, _ =>
    let tree := fun (r : Except IoFailure String) => Tree.ofFileText (r.toOption.getD "")
    let p := lexicalPath (fs.resolve db)
    return (withParents fs p).set p (.database [("users", tree users), ("login_info", tree logins)])

/-- Gathers the environment and the files a command line looks at, and runs it. -/
def start (args : List String) : IO UInt32 := do
  let values ← environmentNames.mapM fun v => do return (v, ← IO.getEnv v)
  let env := fun (n : String) => (values.lookup n).join
  let cwd := toString (← IO.currentDir)
  let fs := Files.empty (pathComponents cwd)
  let fs ← match Cli.readLine env args with
    | .ok inv => do
      let path := inv.configFile.getD (Config.defaultPath env)
      let fs ← visit fs path
      match Config.loadEffective env fs path with
      | .ok c => visitUsers fs (Config.dataDirIn env c)
      | .error _ => pure fs
    | .error _ => pure fs
  let o := Cli.run env fs args
  IO.print o.stdout
  IO.eprint o.stderr
  return o.status.toUInt32

end Executable

end Warden

/-- Runs `llm-studio`. -/
def main (args : List String) : IO UInt32 := Warden.Executable.start args
