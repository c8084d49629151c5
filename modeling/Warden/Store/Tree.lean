/-!
# Trees of a key-value database

A durable store keeps its records as texts under text keys in named trees, and reads them back
in key order. A tree here is the list of its entries in strictly increasing key order, so that
every key is held once and a walk over the tree meets the keys in the order the database
does: byte order of the UTF-8 keys, which is the order of their characters.

Values are kept as the text that was written; decoding a record is the reader's business, so
a record that does not decode is still in the tree and still counted.
-/

namespace Warden

/-- A tree of texts under text keys, in increasing key order. -/
structure Tree where
  entries : List (String × String)
  deriving DecidableEq, Repr

namespace Tree

/-- The empty tree. -/
def empty : Tree := ⟨[]⟩

/-- Puts a value under a key into entries in key order, replacing the key's old value. -/
def put (k v : String) : List (String × String) → List (String × String)
  | [] => [(k, v)]
  | (k', v') :: rest =>
    if k < k' then (k, v) :: (k', v') :: rest
    else if k = k' then (k, v) :: rest
    else (k', v') :: put k v rest

/-- The value under a key. -/
def find? (t : Tree) (k : String) : Option String := t.entries.lookup k

/-- The tree with a value under a key, replacing the old one. -/
def insert (t : Tree) (k v : String) : Tree := ⟨put k v t.entries⟩

/-- The tree without a key. -/
def erase (t : Tree) (k : String) : Tree := ⟨t.entries.filter (·.1 != k)⟩

/-- The number of entries. -/
def size (t : Tree) : Nat := t.entries.length

/-- The keys, in order. -/
def keys (t : Tree) : List String := t.entries.map (·.1)

/-- The values, in key order. -/
def values (t : Tree) : List String := t.entries.map (·.2)

end Tree

end Warden
