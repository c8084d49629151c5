/-!
# Pages

A window into a listing: how many rows to show and how many to skip. Raw requests carry signed
numbers that may be absent; a limit that is absent or not positive takes the configured
default, and an offset that is absent or not positive is zero.
-/

namespace Warden

/-- A window of at most `limit` rows after skipping `offset` rows. -/
structure Page where
  limit : Nat
  offset : Nat
  deriving DecidableEq, Repr

namespace Page

/-- The default page size. -/
def defaultLimit : Nat := 50

/-- The default page: fifty rows from the start. -/
def default : Page := ⟨defaultLimit, 0⟩

/-- The page of a raw request. -/
def normalize (limit offset : Option Int) (defaultLimit : Nat) : Page :=
  let l := match limit with
    | some n => if n > 0 then n.toNat else defaultLimit
    | none => defaultLimit
  let o := match offset with
    | some n => if n > 0 then n.toNat else 0
    | none => 0
  ⟨l, o⟩

/-- The rows of a listing that fall in the page. -/
def window {α : Type} (p : Page) (rows : List α) : List α :=
  (rows.drop p.offset).take p.limit

end Page

end Warden
