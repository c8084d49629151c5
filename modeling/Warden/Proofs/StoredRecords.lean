import Warden.Proofs.SessionRecords
import Warden.Proofs.UserRecords

/-!
# Stored records read back

Every record the stores keep as text is decoded again from that text: users and their login
information in the directory, sessions, their token pairs and the stored session record (the
session with its expiry) in the session store. Each reads back as itself
(`stored_records_read_back`), for every value the record's types can hold: instants a date can
carry (`Timestamp.Valid`) and token expiries within 64 signed bits. The statement ranges over
the subtypes of such records, so each value carries its own proof that it can be written.

The role of a stored user is read leniently. Whatever text stands as the role, the user decodes,
with the role the lenient reading gives the text, and a user written without a role decodes with
the plain user role (`User.read_toJsonRole`), so a record written by another release always loads.
-/

namespace Warden

namespace Json

/-- A reader that reads a text's bytes back as one value decodes the text to that value. -/
theorem readText_eq_of_reads {α : Type} {need : Nat} {r : Reader α} {s : String} {x : α}
    (h : Reads False need r (Text.encodeUtf8 s) (· = x)) (hneed : need < 128) : readText r s = .ok x := by
  rcases readText_of_reads h hneed with ⟨v, rfl, hread⟩ | ⟨hf, -⟩
  · exact hread
  · exact hf.elim

end Json

instance : DecidablePred Token.Storable := fun t =>
  inferInstanceAs (Decidable (-9223372036854775808 ≤ t.expiresAt ∧ t.expiresAt ≤ 9223372036854775807))

instance : DecidablePred TokenPair.Storable := fun p =>
  inferInstanceAs (Decidable (p.access.Storable ∧ p.refresh.Storable))

instance : DecidablePred Session.Storable := fun s => inferInstanceAs (Decidable s.tokens.Storable)

namespace StoredSession

/-- The session's token expiries fit 64 bits and its expiry is an instant a date can carry. -/
def Storable (r : StoredSession) : Prop := r.session.Storable ∧ r.expiresAt.Valid

instance : DecidablePred Storable := fun r => inferInstanceAs (Decidable (r.session.Storable ∧ r.expiresAt.Valid))

/-- A stored record whose session and expiry can be written reads back as itself. -/
theorem read_toJson_of_storable {r : StoredSession} (hr : r.Storable) :
    Json.Reads False 4 shape.read (Text.encodeUtf8 (Json.compact r.toJson)) (· = r) := by
  refine (Json.Shape.read_compact_obj
    (fun m st st' => st' = if m.1 = "session" then { st with session := r.session } else { st with expiresAt := r.expiresAt })
    _ ?_ (by simp) (by simp [shape])).mono id le_rfl ?_
  · intro m hm
    simp only [List.mem_cons, List.not_mem_nil, or_false] at hm
    rcases hm with rfl | rfl
    · -- the session reads back, since its token expiries fit
      exact ⟨_, rfl, fun st => (Session.read_toJson r.session).update _ (by simp) (absurd hr.1) le_rfl⟩
    · exact ⟨_, rfl, fun st => (Json.readTimestamp_rfc3339 hr.2).update _ (by simp) id (Nat.zero_le _)⟩
  · rintro v ⟨mid, rfl, mid', rfl, rfl⟩
    simp

end StoredSession

/-- Any text reads as a stored role, the one the lenient reading of roles gives it. -/
theorem Role.readStored_quote (t : String) :
    Json.Reads False 0 Role.readStored (Text.encodeUtf8 (Json.quote t)) (· = Role.ofStored t) := by
  refine ((Json.readString_quote t).map Role.ofStored).mono id le_rfl ?_
  intro role hrole
  obtain ⟨s, hs, hrole⟩ := hrole
  rw [hrole, hs]

namespace User

/-- The JSON form of a user whose role member holds the given text, or is left out for `none`. -/
def toJsonRole (u : User) (role : Option String) : Json :=
  .obj ([("id", .str u.id), ("nickname", .str u.nickname)] ++ (role.map fun t => ("role", .str t)).toList ++
    [("created_at", .str u.createdAt.rfc3339), ("updated_at", .str u.updatedAt.rfc3339)])

/-- The role a stored role text leads to: the lenient reading of the text, the plain user role
when there is none. -/
def storedRole (role : Option String) : Role := (role.map Role.ofStored).getD .user

@[simp] theorem storedRole_some (t : String) : storedRole (some t) = Role.ofStored t := by
  rw [storedRole, Option.map_some, Option.getD_some]

@[simp] theorem storedRole_none : storedRole none = .user := by
  rw [storedRole, Option.map_none, Option.getD_none]

/-- What reading one member of a user's record sets, for a user written with role text `role`. -/
def memberSets (u : User) (role : Option String) (m : String × Json) (st : User) : User :=
  if m.1 = "id" then { st with id := u.id }
  else if m.1 = "nickname" then { st with nickname := u.nickname }
  else if m.1 = "role" then { st with role := storedRole role }
  else if m.1 = "created_at" then { st with createdAt := u.createdAt }
  else { st with updatedAt := u.updatedAt }

/-- **Stored roles are read leniently.** A user whose instants a date can carry reads back from its
JSON form whatever text stands as its role, with the role the lenient reading gives that text;
written without a role, it reads back with the plain user role. -/
theorem read_toJsonRole {u : User} (hu : u.Storable) (role : Option String) :
    Json.Reads False 1 shape.read (Text.encodeUtf8 (Json.compact (u.toJsonRole role)))
      (· = { u with role := storedRole role }) := by
  refine (Json.Shape.read_compact_obj (fun m st st' => st' = memberSets u role m st)
    _ ?_ ?_ (by simp [shape])).mono False.elim le_rfl ?_
  · intro m hm
    -- each member is one of the record's fields, read back by that field
    simp only [List.mem_append, List.mem_cons, List.not_mem_nil, or_false, Option.mem_toList,
      Option.map_eq_some_iff] at hm
    rcases hm with ((rfl | rfl) | ⟨t, rfl, rfl⟩) | rfl | rfl
    · exact ⟨_, rfl, fun st => (Json.readString_quote u.id).update _ (by simp [memberSets]) False.elim le_rfl⟩
    · exact ⟨_, rfl, fun st => (Json.readString_quote u.nickname).update _ (by simp [memberSets]) False.elim le_rfl⟩
    · exact ⟨_, rfl, fun st => (Role.readStored_quote t).update _ (by simp [memberSets]) False.elim le_rfl⟩
    · exact ⟨_, rfl, fun st => (Json.readTimestamp_rfc3339 hu.1).update _ (by simp [memberSets]) False.elim le_rfl⟩
    · exact ⟨_, rfl, fun st => (Json.readTimestamp_rfc3339 hu.2).update _ (by simp [memberSets]) False.elim le_rfl⟩
  · cases role <;> simp
  · cases role with
    | none =>
      rintro v ⟨m₁, rfl, m₂, rfl, m₃, rfl, m₄, rfl, rfl⟩
      simp [memberSets, storedRole, shape, fresh]
    | some t =>
      rintro v ⟨m₁, rfl, m₂, rfl, m₃, rfl, m₄, rfl, m₅, rfl, rfl⟩
      simp [memberSets]

end User

/-- **Stored records read back.** Every record the stores keep as compact text decodes to itself:
a user whose instants a date can carry, any login information, a token pair and a session whose
token expiries fit 64 bits, and a stored session record whose session and expiry can be written.
A stored user's role may be any text, which decodes through the lenient reading of roles, and a
user written without a role decodes with the plain user role. -/
theorem stored_records_read_back :
    (∀ u : {u : User // u.Storable}, Json.readText User.shape.read (Json.compact u.1.toJson) = .ok u.1) ∧
    (∀ i : LoginInfo, Json.readText LoginInfo.shape.read (Json.compact i.toJson) = .ok i) ∧
    (∀ p : {p : TokenPair // p.Storable}, Json.readText TokenPair.shape.read (Json.compact p.1.toJson) = .ok p.1) ∧
    (∀ s : {s : Session // s.Storable}, Json.readText Session.shape.read (Json.compact s.1.toJson) = .ok s.1) ∧
    (∀ r : {r : StoredSession // r.Storable},
      Json.readText StoredSession.shape.read (Json.compact r.1.toJson) = .ok r.1) ∧
    (∀ u : {u : User // u.Storable}, ∀ role : String,
      Json.readText User.shape.read (Json.compact (u.1.toJsonRole (some role))) =
        .ok { u.1 with role := Role.ofStored role }) ∧
    (∀ u : {u : User // u.Storable},
      Json.readText User.shape.read (Json.compact (u.1.toJsonRole none)) = .ok { u.1 with role := .user }) := by
  refine ⟨fun ⟨u, hu⟩ => ?_, fun i => ?_, fun ⟨p, hp⟩ => ?_, fun ⟨s, hs⟩ => ?_, fun ⟨r, hr⟩ => ?_,
    fun ⟨u, hu⟩ role => ?_, fun ⟨u, hu⟩ => ?_⟩
  · exact Json.readText_eq_of_reads (User.read_toJson hu) (by decide)
  · exact Json.readText_eq_of_reads (LoginInfo.read_toJson i) (by decide)
  · exact Json.readText_eq_of_reads ((TokenPair.read_toJson p).mono (absurd hp) le_rfl fun _ => id) (by decide)
  · exact Json.readText_eq_of_reads ((Session.read_toJson s).mono (absurd hs) le_rfl fun _ => id) (by decide)
  · exact Json.readText_eq_of_reads (StoredSession.read_toJson_of_storable hr) (by decide)
  · have hread := Json.readText_eq_of_reads (User.read_toJsonRole hu (some role)) (by decide)
    rwa [User.storedRole_some] at hread
  · have hread := Json.readText_eq_of_reads (User.read_toJsonRole hu none) (by decide)
    rwa [User.storedRole_none] at hread

/-- An administrator stored with the role text ` Super_Admin ` decodes as a super administrator,
and a stored session whose expiry falls in a leap second decodes as itself. -/
theorem stored_records_read_back_of_super_admin :
    Json.readText User.shape.read (Json.compact
        ((⟨"u-1", "Ann", .admin, ⟨1700000000, 0⟩, ⟨1700000000, 500000000⟩⟩ : User).toJsonRole
          (some " Super_Admin "))) =
        .ok ⟨"u-1", "Ann", Role.ofStored " Super_Admin ", ⟨1700000000, 0⟩, ⟨1700000000, 500000000⟩⟩ ∧
      Json.readText StoredSession.shape.read
        (Json.compact (⟨⟨"u-1", ⟨⟨"a", 1⟩, ⟨"r", -1⟩, "Bearer"⟩⟩, ⟨1483228799, 1500000000⟩⟩ : StoredSession).toJson) =
        .ok ⟨⟨"u-1", ⟨⟨"a", 1⟩, ⟨"r", -1⟩, "Bearer"⟩⟩, ⟨1483228799, 1500000000⟩⟩ :=
  ⟨stored_records_read_back.2.2.2.2.2.1 ⟨_, by decide⟩ _, stored_records_read_back.2.2.2.2.1 ⟨_, by decide⟩⟩

example : Role.ofStored " Super_Admin " = .superAdmin := by decide

end Warden
