import Warden.Store.Sessions

/-!
# Trees in files

On disk a tree is a text file with one entry per line: a JSON array of the key and the value,
both strings, in key order. Reading a file back puts every line that reads into the tree and
passes over the others, so a damaged line costs only its own entry.
-/

namespace Warden

namespace Tree

/-- The file text of a tree. -/
def fileText (t : Tree) : String :=
  String.join (t.entries.map (fun (k, v) => (Json.arr [.str k, .str v]).compact ++ "\n"))

/-- The entry of a line, when it reads as a key and a value. -/
def entryOfLine (line : String) : Option (String × String) :=
  match decodeRecord (Json.readList Json.readString) line with
  | .ok [k, v] => some (k, v)
  | _ => none

/-- The tree of a file text. -/
def ofFileText (text : String) : Tree :=
  ((text.splitOn "\n").filterMap entryOfLine).foldl (fun t (k, v) => t.insert k v) empty

end Tree

end Warden
