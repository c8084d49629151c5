import Warden.Store.Tree

/-!
# A file system

The command line reads its configuration file, writes one when asked, and opens its databases
in a data directory, creating the directories on the way. This module models the part of a
POSIX file system those steps can tell apart: regular files with their text, directories, and
database directories holding named trees.

Paths are lists of components. A text path is split at `/`, dropping empty and `.`
components; a relative path is taken from the working directory. A `..` component stays in
the path until the path is used: it leads back out of the directory before it, which must
then exist as a directory, as the system's lookup of `..` requires. Entries are listed under
the paths that remain once every `..` has been taken back. Every failure is one of the four
the system calls report here, with the operating system's own wording:

* a missing component on the way gives "No such file or directory";
* a regular file where a directory is needed gives "Not a directory";
* reading a directory gives "Is a directory";
* making a directory where something already stands gives "File exists".

`createDirAll` follows the recursive directory creation of the standard library: it succeeds
at once on a directory, tries to make the path, and on a missing parent makes the parent
first and tries again. So making a directory at a regular file reports "File exists", while
making one below a regular file reports "Not a directory".
-/

namespace Warden

/-- A failed file-system call. -/
inductive IoFailure where
  | notFound
  | notDirectory
  | isDirectory
  | alreadyExists
  deriving DecidableEq, Repr

namespace IoFailure

/-- The operating system's description of a failure, with its error number. -/
def message : IoFailure → String
  | notFound => "No such file or directory (os error 2)"
  | notDirectory => "Not a directory (os error 20)"
  | isDirectory => "Is a directory (os error 21)"
  | alreadyExists => "File exists (os error 17)"

end IoFailure

/-- What stands at a path. -/
inductive Entry where
  | file (text : String)
  | directory
  /-- A database directory with its named trees. -/
  | database (trees : List (String × Tree))
  deriving DecidableEq, Repr

namespace Entry

/-- Whether an entry can hold other entries. -/
def isDirectory : Entry → Bool
  | file _ => false
  | _ => true

end Entry

/-- The components of a text path, without empty and `.` components. -/
def pathComponents (p : String) : List String :=
  (p.splitOn "/").filter (fun c => c != "" && c != ".")

/-- The path that components name when every directory on the way exists: each `..` takes
back the component before it, and at the root stays there. -/
def lexicalPath (p : List String) : List String :=
  p.foldl (fun seen c => if c == ".." then seen.dropLast else seen ++ [c]) []

/-- A file system: the entries under their absolute component paths, and the working
directory. The root is a directory and is not listed. -/
structure Files where
  cwd : List String
  entries : List (List String × Entry)
  deriving DecidableEq, Repr

namespace Files

/-- A file system with only its root and the given working directory. -/
def empty (cwd : List String) : Files := ⟨cwd, []⟩

/-- The absolute components of a text path. -/
def resolve (fs : Files) (p : String) : List String :=
  if p.startsWith "/" then pathComponents p else fs.cwd ++ pathComponents p

/-- The entry listed at a path without `..`; the root is a directory. -/
def at? (fs : Files) (p : List String) : Option Entry :=
  if p.isEmpty then some .directory else fs.entries.lookup p

/-- Walks to an entry along a path without `..`: every component before the last must be a
directory. -/
def walk (fs : Files) (seen : List String) : List String → Except IoFailure Entry
  | [] =>
    match fs.at? seen with
    | some e => .ok e
    | none => .error .notFound
  | c :: rest =>
    match fs.at? seen with
    | some e => if e.isDirectory then walk fs (seen ++ [c]) rest else .error .notDirectory
    | none => .error .notFound

/-- The listed path of the components after `seen`: each `..` needs the path before it to be a
directory, and takes it back. -/
def canonicalFrom (fs : Files) (seen : List String) : List String → Except IoFailure (List String)
  | [] => .ok seen
  | c :: rest =>
    if c == ".." then
      match fs.walk [] seen with
      | .ok e => if e.isDirectory then canonicalFrom fs seen.dropLast rest else .error .notDirectory
      | .error e => .error e
    else canonicalFrom fs (seen ++ [c]) rest

/-- The listed path of an absolute path, or why a `..` in it cannot be followed. -/
def canonical (fs : Files) (p : List String) : Except IoFailure (List String) :=
  fs.canonicalFrom [] p

/-- The entry at an absolute path, or why it cannot be reached. -/
def status (fs : Files) (p : List String) : Except IoFailure Entry := do
  fs.walk [] (← fs.canonical p)

/-- Whether a path leads to an entry. -/
def present (fs : Files) (p : List String) : Bool :=
  match fs.status p with
  | .ok _ => true
  | .error _ => false

/-- Whether a path leads to a directory. -/
def isDir (fs : Files) (p : List String) : Bool :=
  match fs.status p with
  | .ok e => e.isDirectory
  | .error _ => false

/-- The file system with an entry set at a path. -/
def set (fs : Files) (p : List String) (e : Entry) : Files :=
  { fs with entries := (p, e) :: fs.entries.filter (·.1 != p) }

/-- Checks that a path's parent is a directory. -/
def parentReady (fs : Files) (p : List String) : Except IoFailure Unit :=
  match fs.status p.dropLast with
  | .ok e => if e.isDirectory then .ok () else .error .notDirectory
  | .error e => .error e

/-- The text of a regular file. -/
def read (fs : Files) (p : List String) : Except IoFailure String :=
  match fs.status p with
  | .ok (.file t) => .ok t
  | .ok _ => .error .isDirectory
  | .error e => .error e

/-- Writes a regular file, replacing an old one; the parent must be a directory. -/
def write (fs : Files) (p : List String) (text : String) : Except IoFailure Files := do
  fs.parentReady p
  if fs.isDir p then throw .isDirectory
  pure (fs.set (← fs.canonical p) (.file text))

/-- Makes one directory; the parent must be a directory and the path free. -/
def mkdir (fs : Files) (p : List String) : Except IoFailure Files := do
  fs.parentReady p
  if fs.present p then throw .alreadyExists
  pure (fs.set (← fs.canonical p) .directory)

/-- Makes a directory and its missing parents; the path is given last component first. -/
def createDirAllRev (fs : Files) : List String → Except IoFailure Files
  | [] => .ok fs
  | c :: parentRev =>
    let p := (c :: parentRev).reverse
    if fs.isDir p then .ok fs
    else
      match fs.mkdir p with
      | .ok fs' => .ok fs'
      | .error .notFound =>
        match createDirAllRev fs parentRev with
        | .ok fs' =>
          match fs'.mkdir p with
          | .ok fs'' => .ok fs''
          | .error e => if fs'.isDir p then .ok fs' else .error e
        | .error e => .error e
      | .error e => .error e

/-- Makes a directory and its missing parents. -/
def createDirAll (fs : Files) (p : List String) : Except IoFailure Files :=
  fs.createDirAllRev p.reverse

/-- The named trees of the database at a path, creating the directory and an empty database
when there is none. -/
def openDatabase (fs : Files) (p : List String) :
    Except IoFailure (Files × List (String × Tree)) := do
  let fs' ← fs.createDirAll p
  let q ← fs'.canonical p
  match fs'.at? q with
  | some (.database trees) => pure (fs', trees)
  | _ => pure (fs'.set q (.database []), [])

/-- Replaces the named trees of the database at a path; a path that cannot be followed
changes nothing. -/
def storeDatabase (fs : Files) (p : List String) (trees : List (String × Tree)) : Files :=
  match fs.canonical p with
  | .ok q => fs.set q (.database trees)
  | .error _ => fs

end Files

/-- The tree of a name, empty when the database has none. -/
def treeNamed (trees : List (String × Tree)) (name : String) : Tree :=
  (trees.lookup name).getD Tree.empty

end Warden
