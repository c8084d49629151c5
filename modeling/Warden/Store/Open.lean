import Warden.Host.Files
import Warden.Store.Users

/-!
# Opening the durable stores

The durable stores live in a data directory: the user directory in the database `users`, the
sessions in the database `sessions`. Opening a store makes its database directory, with the
directories above it, when absent; a file-system failure on the way is a backend failure of
the store, described as the database describes it.
-/

namespace Warden

/-- The store failure of a file-system failure. -/
def StoreError.ofIo (e : IoFailure) : StoreError := .backend ("IO error: " ++ e.message)

/-- The path of a database in a data directory. -/
def databasePath (fs : Files) (dir name : String) : List String := fs.resolve dir ++ [name]

namespace DurableUsers

/-- The user directory of named trees. -/
def ofTrees (trees : List (String × Tree)) : DurableUsers :=
  ⟨treeNamed trees "users", treeNamed trees "login_info"⟩

/-- The named trees of a user directory. -/
def trees (d : DurableUsers) : List (String × Tree) := [("users", d.users), ("login_info", d.logins)]

/-- Opens the user directory of a data directory. -/
def openIn (fs : Files) (dir : String) : Except StoreError (Files × DurableUsers) :=
  match fs.openDatabase (databasePath fs dir "users") with
  | .ok (fs', trees) => .ok (fs', ofTrees trees)
  | .error e => .error (StoreError.ofIo e)

/-- Writes a user directory back into its data directory. -/
def storeIn (fs : Files) (dir : String) (d : DurableUsers) : Files :=
  fs.storeDatabase (databasePath fs dir "users") d.trees

end DurableUsers

namespace DurableSessions

/-- Opens the session store of a data directory, with a key prefix. -/
def openIn (fs : Files) (dir keyPrefix : String) : Except StoreError (Files × DurableSessions) :=
  match fs.openDatabase (databasePath fs dir "sessions") with
  | .ok (fs', trees) => .ok (fs', ⟨treeNamed trees "sessions", keyPrefix⟩)
  | .error e => .error (StoreError.ofIo e)

end DurableSessions

end Warden
