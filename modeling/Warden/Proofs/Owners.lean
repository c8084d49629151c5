import Warden.Proofs.Grants
import Warden.Proofs.SessionRecords
import Warden.Proofs.SessionStores

/-!
# Every session has an owner

In every state that service operations reach from empty stores, each session the store holds
belongs to a nonempty user id with a record in the directory (`sessions_have_owners`). So a
session lookup that answers names a user the directory knows, and the role and profile lookups
that follow it never answer that the user is missing.

## Why it holds

Sessions are written in one place only, at the end of a sign-in, after the sign-in created its
user; and a sign-in is for a nonempty id, on the provider's path as on the token reader's
(`World.signInIdentity_ne_empty`). Every other write removes sessions or adds users, and none
deletes a user. A durable store holds a session as the text of its stored record; that text
reads back, when it reads at all, with the session that was written
(`StoredSession.decode_toJson`).

## How the proof goes

`Stores.Owned` is the invariant, and `Stores.Grows` the relation that every call of the
services but the session save keeps: it drops sessions and adds user records. `Owned` carries
along `Grows` (`Stores.Owned.grows`). The relation has a frame (`World.grows_frame`), so every
service step but the sign-in keeps it; the sign-in is followed stage by stage
(`Access.complete_owned`), its session saved for a user it has just made sure of.
-/

namespace Warden

namespace Stores

/-- Whether the directory holds a record for a user id; a durable record counts whether it
decodes or not. -/
def hasUser : Stores → String → Bool
  | .memory _ us, u => (us.find? u).isSome
  | .durable _ us _, u => (us.users.find? u).isSome

/-- A session is owned when its user id is nonempty and has a record in the directory. -/
def Owns (st : Stores) (s : Session) : Prop := s.userId ≠ "" ∧ st.hasUser s.userId = true

/-- Every session the store holds is owned. The durable store holds a session as the text of a
stored record. -/
def Owned : Stores → Prop
  | .memory ss us => ∀ id h, ss.entries.lookup id = some h → (Stores.memory ss us).Owns h.session
  | .durable ss us sep => ∀ k text, ss.tree.find? k = some text →
      ∃ r : StoredSession, text = (StoredSession.toJson r).compact ∧ (Stores.durable ss us sep).Owns r.session

/-- `st'` holds no session that `st` does not hold, and a record for every user that `st` has
one for, in the same layout. -/
def Grows : Stores → Stores → Prop
  | .memory ss us, .memory ss' us' =>
    (∀ id h, ss'.entries.lookup id = some h → ss.entries.lookup id = some h) ∧
      ∀ u, (us.find? u).isSome = true → (us'.find? u).isSome = true
  | .durable ss us _, .durable ss' us' _ =>
    (∀ k text, ss'.tree.find? k = some text → ss.tree.find? k = some text) ∧
      ∀ u, (us.users.find? u).isSome = true → (us'.users.find? u).isSome = true
  | _, _ => False

theorem Grows.refl (st : Stores) : st.Grows st := by
  cases st <;> exact ⟨fun _ _ h => h, fun _ h => h⟩

theorem Grows.trans {st₁ st₂ st₃ : Stores} (h₁ : st₁.Grows st₂) (h₂ : st₂.Grows st₃) : st₁.Grows st₃ :=
  match st₁, st₂, st₃, h₁, h₂ with
  | .memory .., .memory .., .memory .., h₁, h₂ =>
    ⟨fun id h hl => h₁.1 id h (h₂.1 id h hl), fun u hu => h₂.2 u (h₁.2 u hu)⟩
  | .durable .., .durable .., .durable .., h₁, h₂ =>
    ⟨fun k t hk => h₁.1 k t (h₂.1 k t hk), fun u hu => h₂.2 u (h₁.2 u hu)⟩
  | .memory .., .durable .., _, h₁, _ => h₁.elim
  | .durable .., .memory .., _, h₁, _ => h₁.elim
  | .memory .., .memory .., .durable .., _, h₂ => h₂.elim
  | .durable .., .durable .., .memory .., _, h₂ => h₂.elim

theorem Grows.hasUser {st st' : Stores} (h : st.Grows st') {u : String} (hu : st.hasUser u = true) :
    st'.hasUser u = true :=
  match st, st', h with
  | .memory .., .memory .., h => h.2 u hu
  | .durable .., .durable .., h => h.2 u hu
  | .memory .., .durable .., h => h.elim
  | .durable .., .memory .., h => h.elim

/-- What a store holds after it grew it held before, and the users it names are still known. -/
theorem Owned.grows {st st' : Stores} (h : st.Owned) (hg : st.Grows st') : st'.Owned :=
  match st, st', h, hg with
  | .memory .., .memory .., h, hg => fun id held hl =>
    have hown := h id held (hg.1 id held hl)
    ⟨hown.1, hg.hasUser hown.2⟩
  | .durable .., .durable .., h, hg => fun k text hk =>
    have ⟨r, htext, hown⟩ := h k text (hg.1 k text hk)
    ⟨r, htext, hown.1, hg.hasUser hown.2⟩
  | .memory .., .durable .., _, hg => hg.elim
  | .durable .., .memory .., _, hg => hg.elim

end Stores

/-! ## The stores' own steps -/

namespace MemorySessions

/-- A lookup keeps the store or drops the session it found expired. -/
theorem lookup_get_snd (ss : MemorySessions) (id : String) (now : Nat) {k : String} {h : HeldSession}
    (hk : (ss.get id now).2.entries.lookup k = some h) : ss.entries.lookup k = some h := by
  unfold get at hk
  split at hk
  · exact hk
  · split at hk
    · exact hk
    · rw [lookup_erase] at hk
      split at hk
      · cases hk
      · exact hk

/-- A lookup that answers a session found it under its id. -/
theorem lookup_of_get_fst {ss : MemorySessions} {id : String} {now : Nat} {s : Session}
    (h : (ss.get id now).1 = .ok s) : ∃ held, ss.entries.lookup id = some held ∧ held.session = s := by
  unfold get at h
  split at h
  · cases h
  · rename_i held hl
    split at h
    · cases h
      exact ⟨held, hl, rfl⟩
    · cases h

/-- After a save, the store holds the saved session under its id, and elsewhere what it held. -/
theorem lookup_of_save {ss ss' : MemorySessions} {id : String} {s : Session} {ttl : Duration} {now : Nat}
    (h : ss.save id s ttl now = .ok ss') {k : String} {held : HeldSession} (hk : ss'.entries.lookup k = some held) :
    held.session = s ∨ ss.entries.lookup k = some held := by
  unfold save at h
  split at h
  · cases h
  · cases h
    rw [lookup_cons_ite] at hk
    split at hk
    · cases hk
      exact .inl rfl
    · rw [lookup_erase] at hk
      split at hk
      · cases hk
      · exact .inr hk

end MemorySessions

namespace DurableSessions

/-- A lookup keeps the store or drops the session it found expired. -/
theorem find?_get_snd (ss : DurableSessions) (id : String) (now : Timestamp) {k text : String}
    (hk : (ss.get id now).2.tree.find? k = some text) : ss.tree.find? k = some text := by
  unfold get at hk
  split at hk
  · exact hk
  · split at hk
    · exact hk
    · split at hk
      · exact hk
      · dsimp only at hk
        rw [Tree.find?_erase] at hk
        split at hk
        · cases hk
        · exact hk

/-- A lookup that answers a session read it from the text stored under its key. -/
theorem stored_of_get_fst {ss : DurableSessions} {id : String} {now : Timestamp} {s : Session}
    (h : (ss.get id now).1 = .ok s) : ∃ text r, ss.tree.find? (ss.key id) = some text ∧
      decodeRecord StoredSession.shape.read text = .ok r ∧ r.session = s := by
  unfold get at h
  split at h
  · cases h
  · rename_i text hf
    split at h
    · cases h
    · rename_i r hd
      split at h
      · cases h
        exact ⟨text, r, hf, hd, rfl⟩
      · cases h

/-- After a save, the store holds the text of the saved session's record under its key, and
elsewhere what it held. -/
theorem find?_of_save {ss ss' : DurableSessions} {id : String} {s : Session} {ttl : Duration} {now : Timestamp}
    (h : ss.save id s ttl now = .ok ss') {k text : String} (hk : ss'.tree.find? k = some text) :
    (∃ at_, text = (StoredSession.toJson ⟨s, at_⟩).compact) ∨ ss.tree.find? k = some text := by
  unfold save at h
  split at h
  · cases h
  · cases h
    dsimp only at hk
    rw [Tree.find?_insert] at hk
    split at hk
    · cases hk
      exact .inl ⟨_, rfl⟩
    · exact .inr hk

end DurableSessions

namespace MemoryUsers

variable (d : MemoryUsers)

theorem isSome_find?_put {v : String} (hv : (d.find? v).isSome = true) (u : User) :
    ((d.put u).find? v).isSome = true := by
  rw [find?_put]
  split
  · rfl
  · exact hv

theorem isSome_find?_ensureExists {v : String} (hv : (d.find? v).isSome = true) (id : String)
    (now : Timestamp) : ((d.ensureExists id now).find? v).isSome = true := by
  unfold ensureExists
  split
  · exact hv
  · exact d.isSome_find?_put hv _

end MemoryUsers

namespace DurableUsers

variable (d : DurableUsers)

theorem isSome_find?_ensureExists {v : String} (hv : (d.users.find? v).isSome = true) (id : String)
    (now : Timestamp) : ((d.ensureExists id now).users.find? v).isSome = true := by
  unfold ensureExists
  split
  · exact hv
  · rw [Tree.find?_insert]
    split
    · rfl
    · exact hv

theorem ensureExists_self (id : String) (now : Timestamp) : ((d.ensureExists id now).users.find? id).isSome = true := by
  unfold ensureExists
  split
  · assumption
  · rw [Tree.find?_insert, if_pos rfl]
    rfl

/-- A change of a user that goes through stores a record under its id, and keeps every other. -/
theorem isSome_find?_modify {v id : String} {f : User → User} {now : Timestamp} {d' : DurableUsers}
    (h : d.modify id f now = .ok d') (hv : (d.users.find? v).isSome = true) : (d'.users.find? v).isSome = true := by
  unfold modify at h
  cases hf : d.find? id with
  | error e =>
    rw [hf] at h
    cases h
  | ok u =>
    rw [hf] at h
    cases h
    rw [Tree.find?_insert]
    split
    · rfl
    · exact hv

end DurableUsers

/-! ## What the world's calls do to the stores -/

namespace World

/-- `w'` grows the stores of `w`. -/
def Grows (w w' : World) : Prop := w.stores.Grows w'.stores

instance : IsPreorder World Grows where
  refl w := Stores.Grows.refl w.stores
  trans _ _ _ h₁ h₂ := Stores.Grows.trans h₁ h₂

theorem grows_of_stores {w w' : World} (h : w'.stores = w.stores) : Grows w w' := by
  unfold Grows
  rw [h]
  exact Stores.Grows.refl _

theorem grows_getSession (w : World) (id : SessionId) : Grows w (w.getSession id).2 := by
  unfold Grows
  cases hst : w.stores with
  | memory ss us =>
    rw [getSession_of_memory hst]
    exact ⟨fun k h hk => ss.lookup_get_snd id.text w.clock hk, fun _ hu => hu⟩
  | durable ss us sep =>
    rw [getSession_of_durable hst]
    exact ⟨fun k text hk => ss.find?_get_snd id.text w.wall hk, fun _ hu => hu⟩

theorem grows_ensureUser (w : World) (id : String) : Grows w (w.ensureUser id).2 := by
  unfold Grows ensureUser
  split
  · rename_i ss us hst
    rw [hst]
    exact ⟨fun _ _ h => h, fun _ hu => us.isSome_find?_ensureExists hu id w.wall⟩
  · rename_i ss us sep hst
    rw [hst]
    exact ⟨fun _ _ h => h, fun _ hu => us.isSome_find?_ensureExists hu id w.wall⟩

theorem grows_saveLoginInfo (w : World) (info : LoginInfo) : Grows w (w.saveLoginInfo info).2 := by
  unfold Grows saveLoginInfo
  split
  · rename_i ss us hst
    rw [hst]
    exact ⟨fun _ _ h => h, fun _ hu => hu⟩
  · rename_i ss us sep hst
    rw [hst]
    exact ⟨fun _ _ h => h, fun _ hu => hu⟩

theorem grows_modifyUser (w : World) (id : String) (f : User → User) : Grows w (w.modifyUser id f).2 := by
  unfold Grows modifyUser
  split
  · rename_i ss us hst
    rw [hst]
    exact ⟨fun _ _ h => h, fun _ hu => us.isSome_find?_put hu _⟩
  · rename_i ss us sep hst
    rw [hst]
    split
    · rename_i us' hmod
      exact ⟨fun _ _ h => h, fun _ hu => us.isSome_find?_modify hmod hu⟩
    · show Stores.Grows _ w.stores
      rw [hst]
      exact Stores.Grows.refl _

/-- Every primitive call of the services but the session save grows the stores. -/
theorem grows_frame : Sim.Frame Grows where
  forward _ _ _ := grows_of_stores rfl
  lookup := grows_getSession
  creation := grows_ensureUser
  unseen _ _ _ _ _ _ hst := grows_of_stores hst
  nickname w id _ := grows_modifyUser w id _

theorem hasUser_ensureUser (w : World) (id : String) : (w.ensureUser id).2.stores.hasUser id = true := by
  unfold ensureUser
  split
  · rename_i ss us hst
    show ((us.ensureExists id w.wall).find? id).isSome = true
    rw [MemoryUsers.find?_ensureExists, if_pos rfl]
    rfl
  · rename_i ss us sep hst
    exact us.ensureExists_self id w.wall

/-- A session saved for a user the directory knows, under a nonempty id, keeps every session
owned. -/
theorem owned_saveSession {w : World} (hw : w.stores.Owned) {s : Session} (hs : w.stores.Owns s)
    (id : SessionId) (ttl : Duration) : (w.saveSession id s ttl).2.stores.Owned := by
  unfold saveSession
  split
  · rename_i ss us hst
    rw [hst] at hw hs
    cases hsave : ss.save id.text s ttl w.clock with
    | error e =>
      show w.stores.Owned
      rw [hst]
      exact hw
    | ok ss' =>
      show Stores.Owned (.memory ss' us)
      intro k held hk
      rcases MemorySessions.lookup_of_save hsave hk with hsess | hold
      · rw [hsess]
        exact hs
      · exact hw k held hold
  · rename_i ss us sep hst
    rw [hst] at hw hs
    cases hsave : ss.save id.text s ttl w.wall with
    | error e =>
      show w.stores.Owned
      rw [hst]
      exact hw
    | ok ss' =>
      show Stores.Owned (.durable ss' us sep)
      intro k text hk
      rcases DurableSessions.find?_of_save hsave hk with ⟨at_, rfl⟩ | hold
      · exact ⟨_, rfl, hs⟩
      · exact hw k text hold

/-- A session the store answers is owned. -/
theorem owns_of_getSession {w : World} (hw : w.stores.Owned) {id : SessionId} {s : Session}
    (h : (w.getSession id).1 = .ok s) : w.stores.Owns s := by
  cases hst : w.stores with
  | memory ss us =>
    rw [getSession_of_memory hst] at h
    rw [hst] at hw
    obtain ⟨held, hl, rfl⟩ := MemorySessions.lookup_of_get_fst h
    exact hw id.text held hl
  | durable ss us sep =>
    rw [getSession_of_durable hst] at h
    rw [hst] at hw
    obtain ⟨text, r, hf, hd, rfl⟩ := DurableSessions.stored_of_get_fst h
    -- the text is the one written for an owned session, and it reads back with that session
    obtain ⟨r₀, rfl, hown⟩ := hw _ text hf
    rw [StoredSession.decode_toJson r₀ hd]
    exact hown

end World

namespace Sim

theorem keeps_deleteSession_grows (id : SessionId) : Keeps World.Grows (deleteSession id) := by
  intro ds w
  unfold deleteSession
  rw [bind_ok world_run]
  cases h : w.stores with
  | memory ss us =>
    show Stores.Grows w.stores (.memory (ss.erase id.text) us)
    rw [h]
    refine ⟨fun k held hk => ?_, fun _ hu => hu⟩
    rw [MemorySessions.lookup_erase] at hk
    split at hk
    · cases hk
    · exact hk
  | durable ss us sep =>
    show Stores.Grows w.stores (.durable (ss.delete id.text) us sep)
    rw [h]
    refine ⟨fun k text hk => ?_, fun _ hu => hu⟩
    rw [DurableSessions.delete, Tree.find?_erase] at hk
    split at hk
    · cases hk
    · exact hk

end Sim

/-! ## The directory's answers -/

/-- A stored record that fails to decode is a serialization error, never a missing one. -/
theorem decodeRecord_ne_notFound {α : Type} (r : Json.Reader α) (text : String) :
    decodeRecord r text ≠ .error .notFound := by
  unfold decodeRecord
  split <;> simp

namespace DurableUsers

variable (d : DurableUsers) {u : String}

/-- A user with a stored record is found, unless its record fails to decode. -/
theorem find?_of_stored (h : (d.users.find? u).isSome = true) :
    d.find? u ≠ .ok none ∧ d.find? u ≠ .error .notFound := by
  obtain ⟨text, htext⟩ := Option.isSome_iff_exists.1 h
  have hdec := decodeRecord_ne_notFound User.shape.read text
  unfold find?
  rw [htext]
  cases hd : decodeRecord User.shape.read text with
  | ok v => simp [Functor.map, Except.map, hd]
  | error e =>
    rw [hd] at hdec
    simpa [Functor.map, Except.map, hd] using hdec

theorem loginOf?_ne_notFound : d.loginOf? u ≠ .error .notFound := by
  unfold loginOf?
  split
  · simp
  · rename_i text _
    have hdec := decodeRecord_ne_notFound LoginInfo.shape.read text
    cases hd : decodeRecord LoginInfo.shape.read text with
    | ok v => simp [Functor.map, Except.map]
    | error e =>
      rw [hd] at hdec
      simpa [Functor.map, Except.map, hd] using hdec

/-- The role of a user with a stored record is read, or its record fails to decode. -/
theorem getRole_ne_notFound (h : (d.users.find? u).isSome = true) : d.getRole u ≠ .error .notFound := by
  obtain ⟨hnone, herr⟩ := d.find?_of_stored h
  unfold getRole
  cases hf : d.find? u with
  | ok v =>
    cases v with
    | some user => simp [bind, Except.bind, pure, Except.pure]
    | none => exact absurd hf hnone
  | error e =>
    rw [hf] at herr
    simpa [bind, Except.bind] using herr

/-- The profile of a user with a stored record is read, or a record fails to decode. -/
theorem getMe_ne_notFound (h : (d.users.find? u).isSome = true) : d.getMe u ≠ .error .notFound := by
  obtain ⟨hnone, herr⟩ := d.find?_of_stored h
  have hlogin : d.loginOf? u ≠ .error .notFound := d.loginOf?_ne_notFound
  unfold getMe
  cases hf : d.find? u with
  | ok v =>
    cases v with
    | some user =>
      cases hl : d.loginOf? u with
      | ok i => simp [bind, Except.bind, pure, Except.pure]
      | error e =>
        rw [hl] at hlogin
        simpa [bind, Except.bind] using hlogin
    | none => exact absurd hf hnone
  | error e =>
    rw [hf] at herr
    simpa [bind, Except.bind] using herr

end DurableUsers

namespace World

variable {w : World} {u : String}

/-- The role lookup of a user with a record answers at once, and never that it is missing. -/
theorem getRole_of_hasUser (h : w.stores.hasUser u = true) (ds : List Nat) :
    ∃ r, Sim.getRole u ds w = .ok r w ∧ r ≠ .error .notFound := by
  refine ⟨_, Sim.getRole_run u, ?_⟩
  unfold getRole
  cases hst : w.stores with
  | memory ss us =>
    rw [hst] at h
    obtain ⟨user, huser⟩ := Option.isSome_iff_exists.1 h
    simp [MemoryUsers.getRole_of_find? us huser]
  | durable ss us sep =>
    rw [hst] at h
    exact us.getRole_ne_notFound h

/-- The profile lookup of a user with a record answers at once, and never that it is missing. -/
theorem getMe_of_hasUser (h : w.stores.hasUser u = true) (ds : List Nat) :
    ∃ r, Sim.getMe u ds w = .ok r w ∧ r ≠ .error .notFound := by
  unfold Sim.getMe
  rw [Sim.bind_ok Sim.world_run]
  cases hst : w.stores with
  | memory ss us =>
    rw [hst] at h
    obtain ⟨user, huser⟩ := Option.isSome_iff_exists.1 h
    refine ⟨_, rfl, ?_⟩
    simp [MemoryUsers.getMe, huser]
  | durable ss us sep =>
    rw [hst] at h
    exact ⟨_, rfl, us.getMe_ne_notFound h⟩

end World

/-! ## Who a sign-in is for -/

/-- A token reader's id is nonempty. -/
theorem UidSource.userId_ne_empty {src : UidSource} {token uid : String} (h : src.userId token = .ok uid) :
    uid ≠ "" := by
  unfold UidSource.userId at h
  split at h
  · split at h
    · cases h
    · split at h
      · cases h
      · rename_i hempty
        cases h
        rintro rfl
        exact hempty rfl
  · cases h

namespace World

/-- The provider's information names a nonempty id. -/
theorem providerInfo?_userId_ne_empty {w : World} {i : LoginInfo} (h : w.providerInfo? = some i) :
    i.userId ≠ "" := by
  unfold providerInfo? at h
  split at h
  · split at h
    · cases h
    · rename_i hempty
      cases h
      rintro hi
      exact hempty (by rw [hi]; rfl)
  · cases h

/-- A sign-in is for a nonempty id, on the provider's path as on the token reader's. -/
theorem signInIdentity_ne_empty {w : World} {uid : String} {info : Option LoginInfo}
    (h : w.signInIdentity = .ok (uid, info)) : uid ≠ "" := by
  unfold signInIdentity at h
  cases hp : w.providerInfo? with
  | some i =>
    rw [hp] at h
    cases h
    exact providerInfo?_userId_ne_empty hp
  | none =>
    rw [hp] at h
    cases hu : w.uidSource.userId w.identity.accessToken with
    | error e =>
      rw [hu] at h
      cases h
    | ok v =>
      rw [hu] at h
      cases h
      exact UidSource.userId_ne_empty hu

end World

/-! ## The sign-in -/

namespace Sim

variable {α ε : Type} {y : ExceptT ε Sim α} {ds : List Nat} {w : World} {Q : α → World → Prop}
  {P : Option ε → World → Prop}

/-- Where a run ends has what both its success and its ways to stop short have. -/
theorem Ends.endOf {S : World → Prop} (h : Ends y ds w Q P) (hQ : ∀ a w', Q a w' → S w')
    (hP : ∀ e? w', P e? w' → S w') : S (Sim.endOf y.run ds w) := by
  unfold Ends at h
  unfold Sim.endOf
  cases hr : y.run ds w with
  | ok r w' =>
    rw [hr] at h
    cases r with
    | ok a => exact hQ a w' h
    | error e => exact hP _ w' h
  | error f w' =>
    rw [hr] at h
    exact hP none w' h

end Sim

namespace Access

variable {src : UidSource} {s : AccessSettings} {ds : List Nat}

/-- A session opened for a user the directory knows, under a nonempty id, keeps every session
owned, whether it opens or not. -/
theorem openSession_owned {V : World} (tokens : TokenPair) (ttl : Duration) {uid : String} (huid : uid ≠ "")
    (hV : V.stores.Owned) (hu : V.stores.hasUser uid = true) :
    Sim.Ends ((worldAuth src s).openSession tokens ttl uid) ds V (fun _ w' => w'.stores.Owned)
      fun _ w' => w'.stores.Owned := by
  rw [AuthService.openSession]
  refine Sim.ends_bind_of_ok (Sim.run_exceptLift (freshSessionId_of src s)) ?_
  refine Sim.ends_bind ((signInStore_ends (by decide) (fun _ => Sim.saveSession_run _ _ _) fun _ h =>
    ⟨World.saveSession_stores_of_error h, (World.saveSession_writesOnly _ _ _ _).idsIssued⟩).mono
      (fun _ w' h => show w'.stores.Owned by
        -- the session is saved, for its owner
        obtain ⟨-, rfl⟩ := h
        refine World.owned_saveSession ?_ ?_ _ _
        · exact hV
        · exact ⟨huid, hu⟩)
      fun _ w' h => show w'.stores.Owned by rw [h.2.1]; exact hV) ?_
  intro _ _ hw
  exact Sim.ends_pure _ hw

/-- The directory writes and the session of a sign-in as a nonempty id keep every session owned:
the user is created before its session is saved, and each later write only adds to the
directory. -/
theorem finish_owned (W : World) (tokens : TokenPair) (ttl : Duration) {uid : String} (huid : uid ≠ "")
    (info : Option LoginInfo) (hW : W.stores.Owned) :
    Sim.Ends ((worldAuth src W.settings).finish tokens info ttl uid) ds W (fun _ w' => w'.stores.Owned)
      fun _ w' => w'.stores.Owned := by
  unfold AuthService.finish
  rw [worldAuth_settings]
  refine Sim.ends_bind ((signInStore_ends (by decide) (fun _ => Sim.ensureUser_run uid) fun _ h => nomatch h).mono
    (fun _ _ h => h) fun _ _ h => by rw [h.2.1]; exact hW) ?_
  rintro _ _ ⟨-, rfl⟩
  -- from here on the directory has a record for the user
  have hg₁ := World.grows_ensureUser W uid
  have hW₁ : (W.ensureUser uid).2.stores.Owned := hW.grows hg₁
  have hu₁ := World.hasUser_ensureUser W uid
  cases info with
  | none => exact openSession_owned tokens ttl huid hW₁ hu₁
  | some i =>
    dsimp only
    refine Sim.ends_bind ((signInStore_ends (by decide) (fun _ => Sim.saveLoginInfo_run i) fun _ h => nomatch h).mono
      (fun _ _ h => h) fun _ _ h => by rw [h.2.1]; exact hW₁) ?_
    rintro _ _ ⟨-, rfl⟩
    have hg₂ := World.grows_saveLoginInfo (W.ensureUser uid).2 i
    have hW₂ := hW₁.grows hg₂
    have hu₂ := hg₂.hasUser hu₁
    by_cases hA : W.settings.superAdmins.contains i.email
    · -- the promotion, which a durable directory may refuse
      rw [if_pos hA]
      refine Sim.ends_bind ((signInStore_ends (by decide) (fun _ => Sim.modifyUser_run uid _) fun _ h =>
        ⟨World.modifyUser_stores_of_error h, (World.modifyUser_writesOnly _ _ _).idsIssued⟩).mono
          (fun _ _ h => h) fun _ _ h => by rw [h.2.1]; exact hW₂) ?_
      rintro _ _ ⟨-, rfl⟩
      have hg₃ := World.grows_modifyUser ((W.ensureUser uid).2.saveLoginInfo i).2 uid
        fun u => { u with role := .superAdmin }
      exact openSession_owned tokens ttl huid (hW₂.grows hg₃) (hg₃.hasUser hu₂)
    · rw [if_neg hA]
      exact openSession_owned tokens ttl huid hW₂ hu₂

/-- The sign-in sequence keeps every session owned, however it ends: the stages before the
directory write nothing. -/
theorem complete_owned (w : World) (code state : String) (ttl : Duration) (hw : w.stores.Owned) :
    Sim.Ends ((worldAuth w.uidSource w.settings).complete code state ttl)
      [w.clock + w.settings.loginTimeout.toNanos] w (fun _ w' => w'.stores.Owned)
      fun _ w' => w'.stores.Owned := by
  rw [AuthService.complete_eq, worldAuth_settings]
  refine Sim.ends_bind ((exchange_ends code state).mono (fun _ _ h => h) fun _ _ h => by rw [h.1]; exact hw) ?_
  rintro _ w₁ ⟨rfl, hw₁, -⟩
  subst w₁
  refine Sim.ends_bind ((lookup_ends w.identity.tokens).mono (fun _ _ h => h)
    fun _ _ h => by rw [h.1]; exact hw) ?_
  rintro _ _ ⟨-, rfl, rfl⟩
  refine Sim.ends_bind (identify_ends.mono (fun _ _ h => h) fun _ _ h => by rw [h.1]; exact hw) ?_
  rintro uid _ ⟨hid, rfl⟩
  exact finish_owned w.identified w.identity.tokens ttl (World.signInIdentity_ne_empty hid) _ hw

/-- A sign-in keeps every session owned, whether it finishes, fails, or a deadline cuts it. -/
theorem owned_signIn (w : World) (code state : String) (ttl : Duration) (hw : w.stores.Owned) :
    (Sim.endOf (w.services.auth.completeOAuthToSession code state ttl).run [] w).stores.Owned := by
  rw [World.services_auth]
  exact (completeOAuth_ends (complete_owned w code state ttl hw)).endOf (fun _ _ h => h)
    fun _ _ h => h.elim id And.right

end Access

/-! ## Runs -/

namespace World

/-- A computation that grows the stores keeps every session owned. -/
theorem owned_endOf {α : Type} {x : Sim α} (h : Sim.Keeps Grows x) {w : World} (hw : w.stores.Owned)
    (ds : List Nat) : (Sim.endOf x ds w).stores.Owned :=
  hw.grows (h.endOf ds w)

/-- A role write grows the stores. Stated on its own, so that the unifier compares the write's
change of a user as written here and never unfolds the write to match two spellings of it. -/
theorem grows_roleWrite : ∀ (w : World) (id : String) (r : Role),
    Grows w (w.modifyUser id fun u => { u with role := r }).2 :=
  fun w id r => grows_modifyUser w id fun u => { u with role := r }

/-- Every service step but the sign-in grows the stores. -/
theorem keeps_step_grows {st : Step}
    (h : (∃ s target role, st = .setUserRole s target role) ∨ st.writesNoRole = true) :
    Sim.Keeps Grows (Sim.step st) := by
  -- the relation and its preorder are given by name: left to the unifier, the relation is sought
  -- through the step's definition
  rcases h with ⟨s, target, role, rfl⟩ | hno
  · exact @Access.keeps_assignStep Grows inferInstance grows_frame grows_roleWrite s target role
  · by_cases hout : ∃ s, st = .logout s
    · obtain ⟨s, rfl⟩ := hout
      exact @Access.keeps_logoutStep Grows inferInstance grows_frame Sim.keeps_deleteSession_grows s
    · -- the other steps that write no role are the plain ones
      have hplain : st.isPlain = true := by
        cases st <;> simp_all [Step.writesNoRole, Step.isPlain]
      exact @Access.keeps_plainStep Grows inferInstance grows_frame _ hplain

/-- Every service step keeps every session owned. -/
theorem owned_step {w : World} (hw : w.stores.Owned) {st : Step} (hst : st.isService = true) :
    (Sim.runTop (Sim.step st) w).2.stores.Owned := by
  rw [Sim.runTop_snd]
  -- the step stays a variable past the split: with a known step, matching the end of the run
  -- against a lemma's would evaluate the step
  rcases Step.isService_cases hst with ⟨code, state, reply, token, ttl, rfl⟩ | hother
  · -- the sign-in itself, then a label, which grows nothing
    have hsign := Access.owned_signIn (w.withGateway reply token) code state
      (ttl.resolve w.settings.sessionTtl) hw
    exact hsign.grows (Access.loginStep_endOf grows_frame w code state reply token ttl)
  · exact owned_endOf (keeps_step_grows hother) hw []

end World

/-- A scenario starts with no session. -/
theorem Setup.owned_world (setup : Setup) : setup.world.stores.Owned := by
  unfold Setup.world
  cases setup.layout with
  | memory => exact fun _ _ h => nomatch h
  | shared => exact fun _ _ h => nomatch h
  | separate => exact fun _ _ h => nomatch h

/-- **Every session has an owner.** Along any run of service operations from a scenario's empty
stores, in either layout and whatever the steps: every session the session store answers belongs
to a nonempty user id that has a record in the directory, and the role and profile lookups of
that user, in the world the session lookup leaves, answer at once and never that the user is
missing. So the recovery that creates a missing user on those lookups is never needed. -/
theorem sessions_have_owners (setup : Setup) (steps : List Step) (hsvc : ∀ st ∈ steps, st.isService = true) :
    let w := setup.world.afterSteps steps
    ∀ (id : SessionId) (s : Session), (w.getSession id).1 = .ok s →
      s.userId ≠ "" ∧ (w.getSession id).2.stores.hasUser s.userId = true ∧
      ∀ ds, (∃ r, Sim.getRole s.userId ds (w.getSession id).2 = .ok r (w.getSession id).2 ∧
          r ≠ .error .notFound) ∧
        ∃ r, Sim.getMe s.userId ds (w.getSession id).2 = .ok r (w.getSession id).2 ∧ r ≠ .error .notFound := by
  intro w id s hs
  have hrun : w.stores.Owned := @World.afterSteps_invariant (fun w => w.stores.Owned)
    (fun _ _ hst h => World.owned_step h hst) _ (Setup.owned_world setup) _ hsvc
  obtain ⟨hne, hu⟩ := World.owns_of_getSession hrun hs
  -- the lookup may drop sessions, but keeps every user record
  have hu' := (World.grows_getSession w id).hasUser hu
  exact ⟨hne, hu', fun ds => ⟨World.getRole_of_hasUser hu' ds, World.getMe_of_hasUser hu' ds⟩⟩

/-- A sign-in into one shared database, then a sign-out of an unknown session. -/
theorem sessions_have_owners_after_sign_in :
    let setup : Setup := ⟨.shared, AccessSettings.default, "", IdentityFake.defaultReply, .absent, "tok"⟩
    let steps := [Step.login "code" "state" none none .none, Step.logout "unknown"]
    (∀ st ∈ steps, st.isService = true) ∧
    let w := setup.world.afterSteps steps
    ∀ (id : SessionId) (s : Session), (w.getSession id).1 = .ok s →
      s.userId ≠ "" ∧ (w.getSession id).2.stores.hasUser s.userId = true ∧
      ∀ ds, (∃ r, Sim.getRole s.userId ds (w.getSession id).2 = .ok r (w.getSession id).2 ∧
          r ≠ .error .notFound) ∧
        ∃ r, Sim.getMe s.userId ds (w.getSession id).2 = .ok r (w.getSession id).2 ∧ r ≠ .error .notFound :=
  ⟨by decide, sessions_have_owners _ _ (by decide)⟩

end Warden
