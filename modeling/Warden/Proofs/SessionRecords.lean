import Warden.Proofs.JsonRecords
import Warden.Store.Sessions

/-!
# Sessions read back

The durable session store keeps a session as the compact text of a record that nests the
session, its token pair and their two tokens. Each of these reads back as itself
(`Token.read_toJson`, `TokenPair.read_toJson`, `Session.read_toJson`), except that a token whose
expiry lies outside the signed 64-bit range fails to read. The stored record's expiry is read
by the calendar, which may refuse it; so the stored record reads back with the session it was
saved with whenever it reads at all (`StoredSession.decode_toJson`).

Each record is one instance of `Json.Shape.read_compact_obj`: the relation says what each member
sets, and the record the relation leads to is the one that was written.
-/

namespace Warden

namespace Token

/-- The expiry fits the signed 64-bit integer it is read as. -/
def Storable (t : Token) : Prop := -9223372036854775808 ≤ t.expiresAt ∧ t.expiresAt ≤ 9223372036854775807

/-- A token reads back as itself; only an expiry beyond 64 bits fails to read. -/
theorem read_toJson (t : Token) :
    Json.Reads (¬ t.Storable) 1 shape.read (Text.encodeUtf8 (Json.compact t.toJson)) (· = t) := by
  refine (Json.Shape.read_compact_obj
    (fun m st st' => st' = if m.1 = "value" then { st with value := t.value } else { st with expiresAt := t.expiresAt })
    _ ?_ (by simp) (by simp [shape])).mono id le_rfl ?_
  · intro m hm
    simp only [List.mem_cons, List.not_mem_nil, or_false] at hm
    rcases hm with rfl | rfl
    · exact ⟨_, rfl, fun st => (Json.readString_quote t.value).update _ (by simp) False.elim le_rfl⟩
    · exact ⟨_, rfl, fun st => (Json.readI64_toString t.expiresAt).update _ (by simp) id le_rfl⟩
  · rintro v ⟨mid, rfl, mid', rfl, rfl⟩
    simp

end Token

namespace TokenPair

/-- Both expiries fit 64 bits. -/
def Storable (p : TokenPair) : Prop := p.access.Storable ∧ p.refresh.Storable

/-- A token pair reads back as itself; only an expiry beyond 64 bits fails to read. -/
theorem read_toJson (p : TokenPair) :
    Json.Reads (¬ p.Storable) 2 shape.read (Text.encodeUtf8 (Json.compact p.toJson)) (· = p) := by
  refine (Json.Shape.read_compact_obj
    (fun m st st' => st' =
      if m.1 = "access_token" then { st with access := p.access }
      else if m.1 = "refresh_token" then { st with refresh := p.refresh }
      else { st with kind := p.kind })
    _ ?_ (by simp) (by simp [shape])).mono id le_rfl ?_
  · intro m hm
    simp only [List.mem_cons, List.not_mem_nil, or_false] at hm
    rcases hm with rfl | rfl | rfl
    · exact ⟨_, rfl, fun st => (Token.read_toJson p.access).update _ (by simp) (fun h hs => h hs.1) le_rfl⟩
    · exact ⟨_, rfl, fun st => (Token.read_toJson p.refresh).update _ (by simp) (fun h hs => h hs.2) le_rfl⟩
    · exact ⟨_, rfl, fun st => (Json.readString_quote p.kind).update _ (by simp) False.elim (Nat.zero_le _)⟩
  · rintro v ⟨mid, rfl, mid', rfl, mid'', rfl, rfl⟩
    simp

end TokenPair

namespace Session

/-- The session's token expiries fit 64 bits. -/
def Storable (s : Session) : Prop := s.tokens.Storable

/-- A session reads back as itself; only a token expiry beyond 64 bits fails to read. -/
theorem read_toJson (s : Session) :
    Json.Reads (¬ s.Storable) 3 shape.read (Text.encodeUtf8 (Json.compact s.toJson)) (· = s) := by
  refine (Json.Shape.read_compact_obj
    (fun m st st' => st' = if m.1 = "user_id" then { st with userId := s.userId } else { st with tokens := s.tokens })
    _ ?_ (by simp) (by simp [shape])).mono id le_rfl ?_
  · intro m hm
    simp only [List.mem_cons, List.not_mem_nil, or_false] at hm
    rcases hm with rfl | rfl
    · exact ⟨_, rfl, fun st => (Json.readString_quote s.userId).update _ (by simp) False.elim (Nat.zero_le _)⟩
    · exact ⟨_, rfl, fun st => (TokenPair.read_toJson s.tokens).update _ (by simp) id le_rfl⟩
  · rintro v ⟨mid, rfl, mid', rfl, rfl⟩
    simp

end Session

namespace StoredSession

/-- A stored record reads back with its session, or fails where its expiry is refused by the
calendar or a token expiry is beyond 64 bits. -/
theorem read_toJson (r : StoredSession) :
    Json.Reads True 4 shape.read (Text.encodeUtf8 (Json.compact r.toJson)) (·.session = r.session) := by
  refine (Json.Shape.read_compact_obj
    (fun m st st' => if m.1 = "session" then st' = { st with session := r.session } else st'.session = st.session)
    _ ?_ (by simp) (by simp [shape])).mono id le_rfl ?_
  · intro m hm
    simp only [List.mem_cons, List.not_mem_nil, or_false] at hm
    rcases hm with rfl | rfl
    · exact ⟨_, rfl, fun st => (Session.read_toJson r.session).update _ (by simp) (fun _ => trivial) le_rfl⟩
    · -- the expiry is whatever the calendar makes of its text; the session is left alone
      refine ⟨_, rfl, fun st => ((Json.readTimestamp_quote _).map fun a => { st with expiresAt := a }).mono
        (fun _ => trivial) (Nat.zero_le _) ?_⟩
      rintro _ ⟨a, -, rfl⟩
      simp
  · rintro v ⟨mid, hmid, mid', hmid', rfl⟩
    simp only [if_pos] at hmid hmid'
    rw [hmid', hmid]

end StoredSession

/-- **Stored sessions read back.** The text the durable store saves for a session, when it reads
back at all, reads back with that session. -/
theorem StoredSession.decode_toJson (r : StoredSession) {v : StoredSession}
    (h : decodeRecord StoredSession.shape.read (Json.compact r.toJson) = .ok v) : v.session = r.session := by
  unfold decodeRecord at h
  rcases Json.readText_of_reads (StoredSession.read_toJson r) (by decide) with ⟨w, hw, hread⟩ | ⟨-, e, hread⟩
  · rw [hread] at h
    cases h
    exact hw
  · rw [hread] at h
    cases h

end Warden
