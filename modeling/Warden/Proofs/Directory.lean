import Mathlib
import Warden.Store.Users

/-!
# The in-memory directory through its views

A caller sees the in-memory directory through two views: the user of an id (`find?`) and the
login information of an id (`loginOf?`). Each write is given here by one equation per view, so
that the proofs about the access services never look inside the lists.

## Writes touch one id

Every write names one id and changes the views at that id only: `put` and `modify` replace the
user of their id, `ensureExists` creates it when it is missing, and `saveLoginInfo` replaces the
information of its user. A record is found by the id it carries, so a write keeps the id of the
record it replaces (`entry_id`).
-/

namespace Warden

namespace MemoryUsers

variable (d : MemoryUsers)

/-! ## Users -/

theorem find?_put (u : User) (v : String) :
    (d.put u).find? v = if u.id = v then some u else d.find? v := by
  unfold put find?
  by_cases h : u.id = v
  · simp [h]
  · rw [if_neg h, List.find?_cons_of_neg (by simpa using h), List.find?_filter]
    congr 1
    funext x
    by_cases hx : x.id = v
    · subst hx
      simp [Ne.symm h]
    · simp [hx]

/-- A user found under an id carries that id. -/
theorem id_of_find? {v : String} {u : User} (h : d.find? v = some u) : u.id = v := by
  simpa using List.find?_some h

theorem entry_of_find? {id : String} {u : User} (now : Timestamp) (h : d.find? id = some u) :
    d.entry id now = u := by
  rw [entry, h, Option.getD_some]

theorem entry_of_missing {id : String} (now : Timestamp) (h : d.find? id = none) :
    d.entry id now = User.fresh id now := by
  rw [entry, h, Option.getD_none]

theorem entry_id (id : String) (now : Timestamp) : (d.entry id now).id = id := by
  cases h : d.find? id with
  | none => rw [entry_of_missing d now h]; rfl
  | some u => rw [entry_of_find? d now h, id_of_find? d h]

/-- A user that exists keeps its role; a new one has the lowest. -/
theorem entry_role (id : String) (now : Timestamp) :
    (d.entry id now).role = ((d.find? id).map User.role).getD .user := by
  cases h : d.find? id with
  | none => rw [entry_of_missing d now h]; rfl
  | some u => rw [entry_of_find? d now h]; rfl

theorem find?_ensureExists (id : String) (now : Timestamp) (v : String) :
    (d.ensureExists id now).find? v = if id = v then some (d.entry id now) else d.find? v := by
  unfold ensureExists
  cases h : d.find? id with
  | none =>
    rw [Option.isSome_none, if_neg Bool.false_ne_true, find?_put, entry_of_missing d now h]
    rfl
  | some u =>
    rw [Option.isSome_some, if_pos rfl, entry_of_find? d now h]
    split
    · subst v
      exact h
    · rfl

theorem find?_modify (id : String) (f : User → User) (now : Timestamp) (hf : ∀ u, (f u).id = u.id)
    (v : String) :
    (d.modify id f now).find? v =
      if id = v then some { f (d.entry id now) with updatedAt := now } else d.find? v := by
  rw [modify, find?_put]
  have hid : ({ f (d.entry id now) with updatedAt := now } : User).id = id :=
    (hf _).trans (entry_id d id now)
  rw [hid]

@[simp] theorem find?_saveLoginInfo (info : LoginInfo) (v : String) :
    (d.saveLoginInfo info).find? v = d.find? v := rfl

theorem getRole_of_find? {v : String} {u : User} (h : d.find? v = some u) : d.getRole v = .ok u.role := by
  rw [getRole, h]

/-! ## Login information -/

theorem loginOf?_saveLoginInfo (info : LoginInfo) (v : String) :
    (d.saveLoginInfo info).loginOf? v = if info.userId = v then some info else d.loginOf? v := by
  unfold saveLoginInfo loginOf?
  by_cases h : info.userId = v
  · simp [h]
  · rw [if_neg h, List.find?_cons_of_neg (by simpa using h), List.find?_filter]
    congr 1
    funext x
    by_cases hx : x.userId = v
    · subst hx
      simp [Ne.symm h]
    · simp [hx]

@[simp] theorem loginOf?_put (u : User) (v : String) : (d.put u).loginOf? v = d.loginOf? v := rfl

@[simp] theorem loginOf?_modify (id : String) (f : User → User) (now : Timestamp) (v : String) :
    (d.modify id f now).loginOf? v = d.loginOf? v := rfl

@[simp] theorem loginOf?_ensureExists (id : String) (now : Timestamp) (v : String) :
    (d.ensureExists id now).loginOf? v = d.loginOf? v := by
  unfold ensureExists
  split <;> rfl

@[simp] theorem logins_ensureExists (id : String) (now : Timestamp) :
    (d.ensureExists id now).logins = d.logins := by
  unfold ensureExists
  split <;> rfl

@[simp] theorem logins_modify (id : String) (f : User → User) (now : Timestamp) :
    (d.modify id f now).logins = d.logins := rfl

end MemoryUsers

end Warden
