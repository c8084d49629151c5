import Warden.Proofs.SessionLifetime
import Warden.Proofs.UserListing

/-!
# One's own profile

A signed-in caller reads their profile (`RbacService.me`) and sets their nickname
(`RbacService.updateNickname`). Both are followed here over the in-memory directory with no fault
on its calls, from a world where the caller's session is live.

## The stages

The authorization of either operation is the session lookup alone, and a lookup that finds the
session in memory leaves the world as it was (`World.sessionAnswer_of_ok`). The profile is then
read; a caller without a record is given one with the lowest role, stamped with the wall clock,
and read again, so the profile is always that of the record found or made (`loadMe_of_memory`).

A nickname is trimmed of `White_Space` and counted in characters. More than 32 is refused before
the directory is asked, and the world stays as it was. Otherwise the nickname is written on the
caller's record, found or made, together with the modification instant and nothing else, and the
profile read back is the one a later read of the profile gives (`own_profile_and_nickname`).
-/

namespace Warden

/-- Reading a live session leaves the store as it was. -/
theorem MemorySessions.get_of_ok {ss ss' : MemorySessions} {id : String} {now : Nat} {s : Session}
    (h : ss.get id now = (.ok s, ss')) : ss' = ss := by
  unfold MemorySessions.get at h
  split at h
  · cases h
  · split at h
    · exact (Prod.mk.inj h).2.symm
    · cases h

namespace World

variable {w w' : World} {ss : MemorySessions} {us us' : MemoryUsers} {t : Duration} {id : SessionId}
  {s : Session}

/-- In memory, a session lookup that finds its session leaves the world as it was. -/
theorem sessionAnswer_of_ok (hmem : w.stores = .memory ss us) (hs : (w.sessionAnswer t id).1 = .ok s) :
    w.sessionAnswer t id = (.ok s, w) := by
  revert hs
  unfold sessionAnswer topStoreAnswer topAnswer getSession
  rw [hmem]
  cases hm : w.faults.modeOf? .sessionGet with
  | none =>
    dsimp only
    cases hg : ss.get id.text w.clock with
    | mk r ss' =>
      intro hs
      dsimp only at hs ⊢
      cases r with
      | error e => cases hs
      | ok x =>
        -- a live session is read without dropping anything
        cases hs
        rw [MemorySessions.get_of_ok hg, ← hmem]
        rfl
  | some m =>
    cases m
    case hang => dsimp only; split <;> intro hs <;> cases hs
    all_goals intro hs; cases hs

/-- A lookup that finds its session finds it again in a world with the same faults, clock and
sessions. -/
theorem sessionAnswer_of_same_sessions (hmem : w.stores = .memory ss us) (hmem' : w'.stores = .memory ss us')
    (hf : w'.faults = w.faults) (hc : w'.clock = w.clock) :
    (w'.sessionAnswer t id).1 = (w.sessionAnswer t id).1 := by
  refine sessionAnswer_fst_congr hf hc id ?_
  rw [getSession_of_memory hmem, getSession_of_memory hmem', hc]

/-- The services are built from the settings and the uid source alone, which no write changes. -/
theorem WritesOnly.services (h : WritesOnly w w') : w'.services = w.services := by
  obtain ⟨st, t, rfl⟩ := h
  rfl

end World

/-- A profile is the directory's profile of the id. -/
theorem Sim.getMe_of_memory {ds : List Nat} {w : World} {ss : MemorySessions} {us : MemoryUsers}
    (hmem : w.stores = .memory ss us) (uid : String) : Sim.getMe uid ds w = .ok (us.getMe uid) w := by
  rw [Sim.getMe, Sim.bind_ok Sim.world_run, hmem]
  rfl

namespace Access

variable (w : World) {W : World} {ss : MemorySessions} {us : MemoryUsers}

/-! ## The directory's calls, without faults -/

section Calls

variable (hmem : W.stores = .memory ss us)
include hmem

theorem getMe_top (hclear : W.faults.modeOf? .getMe = none) (uid : String) :
    (boundedStore "get_me" w.settings.gatewayTimeout (w.services.rbac.users.getMe uid)).run [] W =
      .ok ((us.getMe uid).mapError .storage) W := by
  refine (boundedStore_top (r := (us.getMe uid, W)) fun _ => Sim.getMe_of_memory hmem uid).trans ?_
  rw [topStoreAnswer, topAnswer_of_clear _ hclear]

theorem ensureExists_top (hclear : W.faults.modeOf? .ensureExists = none) (uid : String) :
    (boundedStore "ensure_user" w.settings.gatewayTimeout (w.services.rbac.users.ensureExists uid)).run [] W =
      .ok (.ok ()) { W.tick with stores := .memory ss (us.ensureExists uid W.wall) } := by
  refine (boundedStore_top fun _ => Sim.ensureUser_run uid).trans ?_
  rw [topStoreAnswer, topAnswer_of_clear _ hclear, World.ensureUser_of_memory hmem]
  rfl

theorem setNickname_top (hclear : W.faults.modeOf? .setNickname = none) (uid nick : String) :
    (boundedStore "set_nickname" w.settings.gatewayTimeout (w.services.rbac.users.setNickname uid nick)).run [] W =
      .ok (.ok ()) { W.tick with stores := .memory ss (us.modify uid (fun u => { u with nickname := nick }) W.wall) } := by
  refine (boundedStore_top fun _ => Sim.modifyUser_run uid _).trans ?_
  rw [topStoreAnswer, topAnswer_of_clear _ hclear, World.modifyUser_of_memory hmem]
  rfl

end Calls

/-! ## Reading the profile -/

/-- **Reading a profile.** The profile of a user is read from the record found, or from a new
record with the lowest role that is created first; either way it is the profile of the user's
entry, and only the creation changes the directory. -/
theorem loadMe_of_memory (hmem : W.stores = .memory ss us) (hget : W.faults.modeOf? .getMe = none)
    (hens : W.faults.modeOf? .ensureExists = none) (uid : String) :
    ∃ W', (w.services.rbac.loadMe uid).run [] W = .ok (.ok (Me.compose (us.entry uid W.wall) (us.loginOf? uid))) W' ∧
      W'.stores = .memory ss (us.ensureExists uid W.wall) ∧ World.WritesOnly W W' := by
  unfold RbacService.loadMe
  dsimp only
  cases hf : us.find? uid with
  | some r =>
    have hread : (boundedStore "get_me" w.settings.gatewayTimeout (w.services.rbac.users.getMe uid)).run [] W =
        .ok (.ok (Me.compose r (us.loginOf? uid))) W := by
      rw [getMe_top w hmem hget uid, MemoryUsers.getMe, hf]
      rfl
    refine ⟨W, ?_, ?_, World.WritesOnly.refl W⟩
    · rw [us.entry_of_find? W.wall hf]
      exact Sim.run_tryCatch_ok hread _
    · rw [us.ensureExists_of_isSome W.wall (by rw [hf]; rfl), hmem]
  | none =>
    -- the record is missing: it is created, and the new one is read
    have hread : (boundedStore "get_me" w.settings.gatewayTimeout (w.services.rbac.users.getMe uid)).run [] W =
        .ok (.error (.storage .notFound)) W := by
      rw [getMe_top w hmem hget uid, MemoryUsers.getMe, hf]
      rfl
    let W₂ : World := { W.tick with stores := .memory ss (us.ensureExists uid W.wall) }
    have hread₂ : (boundedStore "get_me" w.settings.gatewayTimeout (w.services.rbac.users.getMe uid)).run [] W₂ =
        .ok (.ok (Me.compose (us.entry uid W.wall) (us.loginOf? uid))) W₂ := by
      rw [getMe_top w (W := W₂) rfl hget uid, MemoryUsers.getMe, us.find?_ensureExists, if_pos rfl,
        MemoryUsers.loginOf?_ensureExists]
      rfl
    refine ⟨W₂, ?_, rfl, ⟨_, _, rfl⟩⟩
    exact (Sim.run_tryCatch_error hread _).trans ((Sim.run_bind_ok (ensureExists_top w hmem hens uid) _).trans hread₂)

/-! ## The caller's operations -/

section Caller

variable {w} {id : SessionId} {s : Session} (hmem : w.stores = .memory ss us) (hid : id.isEmpty = false)
  (hs : (w.sessionAnswer w.settings.gatewayTimeout id).1 = .ok s)
include hmem hid hs

/-- In memory, a caller with a live session is authorized for an operation open to every signed-in
caller as the session's owner, and the world stays as it was. -/
theorem authorize_signedIn_of_memory {op : Operation} (hop : op.clearance = .signedIn) :
    (w.services.rbac.policy.authorize id op).run [] w = .ok (.ok ⟨s.userId, none⟩) w := by
  have h := authorize_of_signedIn (authenticate_of_ok hid hs) hop
  rw [World.sessionAnswer_of_ok hmem hs] at h
  exact h

/-- The caller's profile is the profile of their entry, created first when missing. -/
theorem me_of_memory (hget : w.faults.modeOf? .getMe = none) (hens : w.faults.modeOf? .ensureExists = none) :
    ∃ w', (w.services.rbac.me id).run [] w =
        .ok (.ok (Me.compose (us.entry s.userId w.wall) (us.loginOf? s.userId))) w' ∧
      w'.stores = .memory ss (us.ensureExists s.userId w.wall) ∧ World.WritesOnly w w' := by
  obtain ⟨w', hload, hst, hw⟩ := loadMe_of_memory w hmem hget hens s.userId
  exact ⟨w', (Sim.run_bind_ok (authorize_signedIn_of_memory hmem hid hs rfl) _).trans hload, hst, hw⟩

/-- A nickname longer than the limit is refused, and nothing changes. -/
theorem updateNickname_of_long {n : String} (hlong : maxNicknameChars < (Text.trim n).length) :
    (w.services.rbac.updateNickname id n).run [] w =
      .ok (.error (.invalidNickname (.tooLong "nickname" maxNicknameChars (Text.trim n).length))) w := by
  unfold RbacService.updateNickname
  rw [Sim.run_bind_ok (authorize_signedIn_of_memory hmem hid hs rfl)]
  simp only [checkNickname, hlong, if_true]
  rfl

/-- A nickname within the limit is written, trimmed, on the caller's entry with the modification
instant, and the profile read back shows it. -/
theorem updateNickname_of_fits (hget : w.faults.modeOf? .getMe = none)
    (hens : w.faults.modeOf? .ensureExists = none) (hset : w.faults.modeOf? .setNickname = none) {n : String}
    (hfits : (Text.trim n).length ≤ maxNicknameChars) :
    ∃ w', (w.services.rbac.updateNickname id n).run [] w =
        .ok (.ok (Me.compose { us.entry s.userId w.wall with nickname := Text.trim n, updatedAt := w.wall }
          (us.loginOf? s.userId))) w' ∧
      w'.stores = .memory ss (us.modify s.userId (fun u => { u with nickname := Text.trim n }) w.wall) ∧
      World.WritesOnly w w' := by
  have hfound : (us.modify s.userId (fun u => { u with nickname := Text.trim n }) w.wall).find? s.userId =
      some { us.entry s.userId w.wall with nickname := Text.trim n, updatedAt := w.wall } := by
    rw [us.find?_modify _ (fun u => { u with nickname := Text.trim n }) _ (fun _ => rfl), if_pos rfl]
  -- the profile is read back from the record just written, which is found
  obtain ⟨w', hload, hst, hw⟩ := loadMe_of_memory w
    (W := { w.tick with stores := .memory ss (us.modify s.userId (fun u => { u with nickname := Text.trim n }) w.wall) })
    rfl hget hens s.userId
  rw [MemoryUsers.entry_of_find? _ _ hfound, MemoryUsers.loginOf?_modify] at hload
  rw [MemoryUsers.ensureExists_of_isSome _ _ (by rw [hfound]; rfl)] at hst
  refine ⟨w', ?_, hst, World.WritesOnly.trans ⟨_, _, rfl⟩ hw⟩
  unfold RbacService.updateNickname
  rw [Sim.run_bind_ok (authorize_signedIn_of_memory hmem hid hs rfl)]
  simp only [checkNickname, Nat.not_lt.2 hfits, if_false]
  exact (Sim.run_bind_ok (setNickname_top w hmem hset s.userId (Text.trim n)) _).trans hload

end Caller

end Access

/-! ## The profile and the nickname -/

/-- **One's own profile.** For a caller with a live session in memory, with no fault on the
directory's calls:
* the profile is that of the caller's record, created first with the lowest role when missing,
  and that record is what the directory then holds;
* a nickname whose trimmed form has more than 32 characters is refused with its length, and the
  world stays as it was;
* any other nickname is written, trimmed, on the caller's record, with the modification instant
  and no other change to the record, to other users or to login information, and the profile
  returned is the one that reading the profile next returns. -/
theorem own_profile_and_nickname (w : World) (ss : MemorySessions) (us : MemoryUsers)
    (hmem : w.stores = .memory ss us) (hget : w.faults.modeOf? .getMe = none)
    (hens : w.faults.modeOf? .ensureExists = none) (hset : w.faults.modeOf? .setNickname = none)
    (id : SessionId) (s : Session) (hid : id.isEmpty = false)
    (hs : (w.sessionAnswer w.settings.gatewayTimeout id).1 = .ok s) (n : String) :
    (∃ w' us', (w.services.rbac.me id).run [] w =
        .ok (.ok (Me.compose (us.entry s.userId w.wall) (us.loginOf? s.userId))) w' ∧
      w'.stores = .memory ss us' ∧ us'.find? s.userId = some (us.entry s.userId w.wall) ∧
      (∀ v, v ≠ s.userId → us'.find? v = us.find? v)) ∧
    (32 < (Text.trim n).length →
      (w.services.rbac.updateNickname id n).run [] w =
        .ok (.error (.invalidNickname (.tooLong "nickname" 32 (Text.trim n).length))) w) ∧
    ((Text.trim n).length ≤ 32 →
      let r : User := { us.entry s.userId w.wall with nickname := Text.trim n, updatedAt := w.wall }
      ∃ w' us', (w.services.rbac.updateNickname id n).run [] w = .ok (.ok (Me.compose r (us.loginOf? s.userId))) w' ∧
        w'.stores = .memory ss us' ∧ us'.find? s.userId = some r ∧
        (∀ v, v ≠ s.userId → us'.find? v = us.find? v) ∧ (∀ v, us'.loginOf? v = us.loginOf? v) ∧
        ∃ w'', (w'.services.rbac.me id).run [] w' = .ok (.ok (Me.compose r (us.loginOf? s.userId))) w'') := by
  refine ⟨?me, Access.updateNickname_of_long hmem hid hs, ?fits⟩
  case me =>
    obtain ⟨w', hrun, hst, -⟩ := Access.me_of_memory hmem hid hs hget hens
    refine ⟨w', _, hrun, hst, ?_, fun v hv => ?_⟩
    · rw [us.find?_ensureExists, if_pos rfl]
    · rw [us.find?_ensureExists, if_neg (Ne.symm hv)]
  case fits =>
    intro hfits r
    obtain ⟨w', hrun, hst, hw⟩ := Access.updateNickname_of_fits hmem hid hs hget hens hset hfits
    let us' := us.modify s.userId (fun u => { u with nickname := Text.trim n }) w.wall
    have hfind : ∀ v, us'.find? v = if s.userId = v then some r else us.find? v :=
      us.find?_modify _ (fun u => { u with nickname := Text.trim n }) _ (fun _ => rfl)
    -- the next read sees the same session: a write keeps the faults, the clock and the sessions
    have hs' : (w'.sessionAnswer w'.settings.gatewayTimeout id).1 = .ok s := by
      rw [hw.settings, World.sessionAnswer_of_same_sessions hmem hst hw.faults hw.clock, hs]
    obtain ⟨w'', hme, -, -⟩ := Access.me_of_memory hst hid hs' (hw.faults ▸ hget) (hw.faults ▸ hens)
    rw [MemoryUsers.entry_of_find? _ _ ((hfind _).trans (if_pos rfl)), MemoryUsers.loginOf?_modify] at hme
    refine ⟨w', us', hrun, hst, (hfind _).trans (if_pos rfl), fun v hv => (hfind v).trans (if_neg (Ne.symm hv)),
      fun v => rfl, w'', hme⟩

/-- A caller without a record sets a padded nickname: the record is created with the lowest role and
carries the trimmed nickname. -/
theorem own_profile_and_nickname_of_new_user :
    let w : World := { Setup.world ⟨.memory, AccessSettings.default, "", IdentityFake.defaultReply, .absent, "tok"⟩ with
      stores := .memory ⟨[("ada-session", ⟨⟨"ada", TokenPair.empty⟩, 3600000000000⟩)]⟩ ⟨[], []⟩ }
    (∃ w', (w.services.rbac.me ⟨"ada-session"⟩).run [] w = .ok (.ok ⟨"ada", .user, "", none, ""⟩) w') ∧
      ∃ w', (w.services.rbac.updateNickname ⟨"ada-session"⟩ " Ada\u3000").run [] w =
        .ok (.ok ⟨"ada", .user, "", none, "Ada"⟩) w' := by
  intro w
  have h := own_profile_and_nickname w _ _ rfl rfl rfl rfl ⟨"ada-session"⟩ ⟨"ada", TokenPair.empty⟩ rfl rfl
    " Ada\u3000"
  obtain ⟨w', _, hme, -⟩ := h.1
  obtain ⟨w'', _, hnick, -⟩ := h.2.2 (by decide)
  exact ⟨⟨w', hme⟩, w'', hnick⟩

end Warden
