import Mathlib
import Warden.Proofs.Directory

/-!
# The in-memory directory follows its history

A run of calls on the in-memory directory, each made at a reading of the wall clock, is summed up
by what its history says of each id (`UserHistory`):

* an id has a record once a call that creates a missing record has named it (a creation, a role
  write or a nickname write), and the record was created at the first of those calls;
* its role is the last one written for it, `user` when none was, and its nickname likewise the
  last one written, `""` when none was; it was last modified by the last of these writes, or at
  its creation when there was none;
* its login information is the last that was saved for it.

The directory after the run holds exactly this (`MemoryUsers.replay_find?`,
`MemoryUsers.replay_loginOf?`), so every read answers as the history says. The proof goes by
induction on the run from its end: one equation per call says how the call changes the views of
every id, for the directory (`find?_call_*`) and for the history (`UserHistory.user_snoc_*`), and
the two agree.

## Frames

A call changes the views at the id it names and nowhere else. A creation leaves an existing
record as it is, to the last field; a role write changes the role and the modification instant,
and a nickname write the nickname and the modification instant, of the record found or of a new
one.
-/

namespace Warden

/-- A call on a user directory. -/
inductive UserCall where
  | ensureExists (id : String)
  | saveLoginInfo (info : LoginInfo)
  | getRole (id : String)
  | setRole (id : String) (role : Role)
  | listUsers (page : Page)
  | getMe (id : String)
  | setNickname (id nickname : String)
  deriving DecidableEq, Repr

/-- What a user directory answers to a call that succeeds. -/
inductive UserAnswer where
  | done
  | role (r : Role)
  | users (us : List AdminUser)
  | me (m : Me)
  deriving DecidableEq, Repr

namespace UserCall

/-- The id whose record the call creates when it is missing. -/
def creates : UserCall → Option String
  | ensureExists id | setRole id _ | setNickname id _ => some id
  | _ => none

/-- The role the call writes for `u`. -/
def roleFor (u : String) : UserCall → Option Role
  | setRole id r => if id = u then some r else none
  | _ => none

/-- The nickname the call writes for `u`. -/
def nicknameFor (u : String) : UserCall → Option String
  | setNickname id n => if id = u then some n else none
  | _ => none

/-- Whether the call modifies the record of `u`. -/
def modifies (u : String) : UserCall → Bool
  | setRole id _ | setNickname id _ => decide (id = u)
  | _ => false

/-- The login information the call saves for `u`. -/
def loginFor (u : String) : UserCall → Option LoginInfo
  | saveLoginInfo i => if i.userId = u then some i else none
  | _ => none

variable {c : UserCall} {u : String}

/-- Only a call that creates the record of `u` when missing writes a role for it. -/
theorem creates_of_roleFor {r : Role} (h : c.roleFor u = some r) : c.creates = some u := by
  cases c with
  | setRole id r' =>
    by_cases hid : id = u
    · rw [creates, hid]
    · simp [roleFor, hid] at h
  | _ => cases h

theorem creates_of_nicknameFor {n : String} (h : c.nicknameFor u = some n) : c.creates = some u := by
  cases c with
  | setNickname id n' =>
    by_cases hid : id = u
    · rw [creates, hid]
    · simp [nicknameFor, hid] at h
  | _ => cases h

theorem creates_of_modifies (h : c.modifies u = true) : c.creates = some u := by
  cases c with
  | setRole id r => rw [creates, of_decide_eq_true h]
  | setNickname id n => rw [creates, of_decide_eq_true h]
  | _ => cases h

end UserCall

/-! ## What a history says -/

namespace UserHistory

variable (calls : List (UserCall × Timestamp)) (u : String)

/-- When the history first creates the record of `u`. -/
def createdAt? : Option Timestamp :=
  (calls.filterMap fun c => if c.1.creates = some u then some c.2 else none).head?

/-- The last role written for `u`, or the lowest. -/
def role : Role := ((calls.filterMap fun c => c.1.roleFor u).getLast?).getD .user

/-- The last nickname written for `u`, or none. -/
def nickname : String := ((calls.filterMap fun c => c.1.nicknameFor u).getLast?).getD ""

/-- When the history last modified the record of `u`. -/
def modifiedAt? : Option Timestamp :=
  (calls.filterMap fun c => if c.1.modifies u then some c.2 else none).getLast?

/-- The last login information saved for `u`. -/
def login : Option LoginInfo := (calls.filterMap fun c => c.1.loginFor u).getLast?

/-- The record of `u` that the history gives, if it created one. -/
def user : Option User :=
  (createdAt? calls u).map fun t => ⟨u, nickname calls u, role calls u, t, (modifiedAt? calls u).getD t⟩

/-- The record of `u` that a call at `now` finds or creates. -/
def entry (now : Timestamp) : User := (user calls u).getD (User.fresh u now)

/-- The first value a filter of a history gives, after one more call. -/
theorem head?_filterMap_snoc {α β : Type} (f : α → Option β) (l : List α) (a : α) :
    ((l ++ [a]).filterMap f).head? = (l.filterMap f).head?.or (f a) := by
  rw [List.filterMap_append, List.head?_append]
  cases h : f a <;> simp [h]

/-- The last value a filter of a history gives, after one more call. -/
theorem getLast?_filterMap_snoc {α β : Type} (f : α → Option β) (l : List α) (a : α) :
    ((l ++ [a]).filterMap f).getLast? = (f a).or (l.filterMap f).getLast? := by
  rw [List.filterMap_append, List.getLast?_append]
  cases h : f a <;> simp [h]

variable (c : UserCall) (t : Timestamp)

@[simp] theorem createdAt?_snoc :
    createdAt? (calls ++ [(c, t)]) u = (createdAt? calls u).or (if c.creates = some u then some t else none) := by
  rw [createdAt?, createdAt?, head?_filterMap_snoc]

@[simp] theorem role_snoc : role (calls ++ [(c, t)]) u = (c.roleFor u).getD (role calls u) := by
  rw [role, role, getLast?_filterMap_snoc]
  cases c.roleFor u <;> rfl

@[simp] theorem nickname_snoc : nickname (calls ++ [(c, t)]) u = (c.nicknameFor u).getD (nickname calls u) := by
  rw [nickname, nickname, getLast?_filterMap_snoc]
  cases c.nicknameFor u <;> rfl

@[simp] theorem modifiedAt?_snoc :
    modifiedAt? (calls ++ [(c, t)]) u = (if c.modifies u then some t else none).or (modifiedAt? calls u) := by
  rw [modifiedAt?, modifiedAt?, getLast?_filterMap_snoc]

@[simp] theorem login_snoc : login (calls ++ [(c, t)]) u = (c.loginFor u).or (login calls u) := by
  rw [login, login, getLast?_filterMap_snoc]

variable {calls u}

/-- A history that never created the record of `u` wrote nothing to it either. -/
theorem blank_of_createdAt?_none (h : createdAt? calls u = none) :
    role calls u = .user ∧ nickname calls u = "" ∧ modifiedAt? calls u = none := by
  have hnone : ∀ c ∈ calls, c.1.creates ≠ some u := by
    intro c hc hcr
    have hnil : (calls.filterMap fun c => if c.1.creates = some u then some c.2 else none) = [] :=
      List.head?_eq_none_iff.1 h
    have hskip := List.filterMap_eq_nil_iff.1 hnil c hc
    simp [hcr] at hskip
  have hrole : (calls.filterMap fun c => c.1.roleFor u) = [] :=
    List.filterMap_eq_nil_iff.2 fun c hc => Option.eq_none_iff_forall_ne_some.2 fun r hr =>
      hnone c hc (UserCall.creates_of_roleFor hr)
  have hnick : (calls.filterMap fun c => c.1.nicknameFor u) = [] :=
    List.filterMap_eq_nil_iff.2 fun c hc => Option.eq_none_iff_forall_ne_some.2 fun n hn =>
      hnone c hc (UserCall.creates_of_nicknameFor hn)
  have hmod : (calls.filterMap fun c => if c.1.modifies u then some c.2 else none) = [] :=
    List.filterMap_eq_nil_iff.2 fun c hc => by
      have : c.1.modifies u = false := by
        cases hm : c.1.modifies u
        · rfl
        · exact absurd (UserCall.creates_of_modifies hm) (hnone c hc)
      simp [this]
  exact ⟨by rw [role, hrole]; rfl, by rw [nickname, hnick]; rfl, by rw [modifiedAt?, hmod]; rfl⟩

/-- Before its creation, the record a call finds for `u` is a new one. -/
theorem entry_of_createdAt?_none (h : createdAt? calls u = none) (now : Timestamp) :
    entry calls u now = User.fresh u now := by
  rw [entry, user, h, Option.map_none, Option.getD_none]

/-! ### One more call -/

variable (calls u)

/-- The record of `u` after one more call. A call that creates the record of `u` when missing
finds or creates it, then writes the role and the nickname it carries for `u`, and the instant if
it modifies the record; any other call leaves the record as it was. -/
theorem user_snoc :
    user (calls ++ [(c, t)]) u =
      if c.creates = some u then
        some { entry calls u t with
          role := (c.roleFor u).getD (entry calls u t).role
          nickname := (c.nicknameFor u).getD (entry calls u t).nickname
          updatedAt := if c.modifies u then t else (entry calls u t).updatedAt }
      else user calls u := by
  by_cases hcu : c.creates = some u
  · rw [if_pos hcu]
    cases hc : createdAt? calls u with
    | none =>
      -- the record is created now, on a history that wrote nothing for `u`
      obtain ⟨hr, hn, hm⟩ := blank_of_createdAt?_none hc
      rw [entry_of_createdAt?_none hc]
      cases hmod : c.modifies u <;> simp [user, hc, hcu, hr, hn, hm, hmod, User.fresh]
    | some t₀ => cases hmod : c.modifies u <;> simp [user, entry, hc, hmod]
  · rw [if_neg hcu]
    -- the call writes nothing for `u`
    have hr : c.roleFor u = none :=
      Option.eq_none_iff_forall_ne_some.2 fun _ h => hcu (UserCall.creates_of_roleFor h)
    have hn : c.nicknameFor u = none :=
      Option.eq_none_iff_forall_ne_some.2 fun _ h => hcu (UserCall.creates_of_nicknameFor h)
    have hm : c.modifies u = false := Bool.eq_false_iff.2 fun h => hcu (UserCall.creates_of_modifies h)
    simp [user, hcu, hr, hn, hm]

theorem user_snoc_ensureExists (id : String) :
    user (calls ++ [(.ensureExists id, t)]) u = if id = u then some (entry calls u t) else user calls u := by
  rw [user_snoc]
  by_cases hid : id = u <;> simp [hid, UserCall.creates, UserCall.roleFor, UserCall.nicknameFor, UserCall.modifies]

theorem user_snoc_setRole (id : String) (r : Role) :
    user (calls ++ [(.setRole id r, t)]) u =
      if id = u then some { entry calls u t with role := r, updatedAt := t } else user calls u := by
  rw [user_snoc]
  by_cases hid : id = u <;> simp [hid, UserCall.creates, UserCall.roleFor, UserCall.nicknameFor, UserCall.modifies]

theorem user_snoc_setNickname (id n : String) :
    user (calls ++ [(.setNickname id n, t)]) u =
      if id = u then some { entry calls u t with nickname := n, updatedAt := t } else user calls u := by
  rw [user_snoc]
  by_cases hid : id = u <;> simp [hid, UserCall.creates, UserCall.roleFor, UserCall.nicknameFor, UserCall.modifies]

/-- A call that creates no record writes none. -/
theorem user_snoc_of_creates {c : UserCall} (hc : c.creates = none) :
    user (calls ++ [(c, t)]) u = user calls u := by
  rw [user_snoc, if_neg (by simp [hc])]

end UserHistory

/-! ## The directory, call by call -/

namespace MemoryUsers

/-- One call on the directory at the wall-clock reading `now`: its answer and the directory
after it. -/
def call (d : MemoryUsers) (now : Timestamp) : UserCall → Except StoreError UserAnswer × MemoryUsers
  | .ensureExists id => (.ok .done, d.ensureExists id now)
  | .saveLoginInfo info => (.ok .done, d.saveLoginInfo info)
  | .getRole id => ((d.getRole id).map .role, d)
  | .setRole id r => (.ok .done, d.modify id (fun u => { u with role := r }) now)
  | .listUsers p => (.ok (.users (d.listUsers p)), d)
  | .getMe id => ((d.getMe id).map .me, d)
  | .setNickname id n => (.ok .done, d.modify id (fun u => { u with nickname := n }) now)

/-- The directory after a run of calls, each at its reading of the wall clock. -/
def replay (d : MemoryUsers) (calls : List (UserCall × Timestamp)) : MemoryUsers :=
  calls.foldl (fun d c => (d.call c.2 c.1).2) d

@[simp] theorem replay_nil (d : MemoryUsers) : d.replay [] = d := rfl

@[simp] theorem replay_snoc (d : MemoryUsers) (calls : List (UserCall × Timestamp)) (c : UserCall × Timestamp) :
    d.replay (calls ++ [c]) = ((d.replay calls).call c.2 c.1).2 := by
  rw [replay, List.foldl_append]
  rfl

variable (d : MemoryUsers) (now : Timestamp)

/-- A creation leaves an existing record as it is: the directory does not change at all. -/
theorem ensureExists_of_isSome {id : String} (h : (d.find? id).isSome) : d.ensureExists id now = d := by
  rw [ensureExists, if_pos h]

theorem find?_setRole (id : String) (r : Role) (v : String) :
    (d.call now (.setRole id r)).2.find? v =
      if id = v then some { d.entry id now with role := r, updatedAt := now } else d.find? v :=
  d.find?_modify id (fun u => { u with role := r }) now (fun _ => rfl) v

theorem find?_setNickname (id n : String) (v : String) :
    (d.call now (.setNickname id n)).2.find? v =
      if id = v then some { d.entry id now with nickname := n, updatedAt := now } else d.find? v :=
  d.find?_modify id (fun u => { u with nickname := n }) now (fun _ => rfl) v

/-- A call changes the record of no id but the one it creates when missing. -/
theorem find?_call_of_creates_ne {c : UserCall} {v : String} (h : c.creates ≠ some v) :
    (d.call now c).2.find? v = d.find? v := by
  cases c with
  | ensureExists id =>
    have hid : id ≠ v := fun he => h (by rw [UserCall.creates, he])
    rw [call, find?_ensureExists, if_neg hid]
  | setRole id r =>
    have hid : id ≠ v := fun he => h (by rw [UserCall.creates, he])
    rw [find?_setRole, if_neg hid]
  | setNickname id n =>
    have hid : id ≠ v := fun he => h (by rw [UserCall.creates, he])
    rw [find?_setNickname, if_neg hid]
  | saveLoginInfo info => exact find?_saveLoginInfo d info v
  | getRole id => rfl
  | listUsers p => rfl
  | getMe id => rfl

/-- A call changes the login information of no id but the one it saves it for. -/
theorem loginOf?_call_of_loginFor {c : UserCall} {v : String} (h : c.loginFor v = none) :
    (d.call now c).2.loginOf? v = d.loginOf? v := by
  cases c with
  | saveLoginInfo info =>
    have hid : info.userId ≠ v := fun he => by simp [UserCall.loginFor, he] at h
    rw [call, loginOf?_saveLoginInfo, if_neg hid]
  | ensureExists id => exact loginOf?_ensureExists d id now v
  | setRole id r => exact loginOf?_modify d id _ now v
  | setNickname id n => exact loginOf?_modify d id _ now v
  | getRole id => rfl
  | listUsers p => rfl
  | getMe id => rfl

theorem loginOf?_call (c : UserCall) (v : String) :
    (d.call now c).2.loginOf? v = (c.loginFor v).or (d.loginOf? v) := by
  cases h : c.loginFor v with
  | none => rw [loginOf?_call_of_loginFor d now h, Option.none_or]
  | some i =>
    cases c with
    | saveLoginInfo info =>
      by_cases hid : info.userId = v
      · simp only [UserCall.loginFor, if_pos hid, Option.some.injEq] at h
        subst h
        rw [call, loginOf?_saveLoginInfo, if_pos hid, Option.some_or]
      · simp [UserCall.loginFor, hid] at h
    | _ => cases h

/-! ## The run -/

variable (calls : List (UserCall × Timestamp))

/-- **The records a run leaves.** The directory after a run of calls from the empty one holds,
for each id, the record its history gives. -/
theorem replay_find? (u : String) : (empty.replay calls).find? u = UserHistory.user calls u := by
  -- induction on the run from its end, for every id at once
  induction calls using List.reverseRecOn generalizing u with
  | nil => rfl
  | append_singleton calls c ih =>
    obtain ⟨call, t⟩ := c
    have hentry : ∀ id, (empty.replay calls).entry id t = UserHistory.entry calls id t := by
      intro id
      rw [entry, ih, UserHistory.entry]
    rw [replay_snoc]
    cases call with
    | ensureExists id =>
      rw [UserHistory.user_snoc_ensureExists, MemoryUsers.call, find?_ensureExists, hentry, ih]
      by_cases hid : id = u
      · subst hid
        rfl
      · rw [if_neg hid, if_neg hid]
    | setRole id r =>
      rw [UserHistory.user_snoc_setRole, find?_setRole, hentry, ih]
      by_cases hid : id = u
      · subst hid
        rfl
      · rw [if_neg hid, if_neg hid]
    | setNickname id n =>
      rw [UserHistory.user_snoc_setNickname, find?_setNickname, hentry, ih]
      by_cases hid : id = u
      · subst hid
        rfl
      · rw [if_neg hid, if_neg hid]
    | saveLoginInfo info =>
      rw [UserHistory.user_snoc_of_creates _ _ _ rfl, find?_call_of_creates_ne _ _ (by simp [UserCall.creates]), ih]
    | getRole id => rw [UserHistory.user_snoc_of_creates _ _ _ rfl, ← ih]; rfl
    | listUsers p => rw [UserHistory.user_snoc_of_creates _ _ _ rfl, ← ih]; rfl
    | getMe id => rw [UserHistory.user_snoc_of_creates _ _ _ rfl, ← ih]; rfl

/-- **The login information a run leaves.** The directory after a run of calls from the empty one
holds, for each id, the last login information saved for it. -/
theorem replay_loginOf? (u : String) : (empty.replay calls).loginOf? u = UserHistory.login calls u := by
  induction calls using List.reverseRecOn with
  | nil => rfl
  | append_singleton calls c ih => rw [replay_snoc, loginOf?_call, ih, UserHistory.login_snoc]

/-- A read of a role answers the role the history gives, or that there is no record. -/
theorem replay_getRole (u : String) :
    ((empty.replay calls).call now (.getRole u)).1 =
      match UserHistory.user calls u with
      | some x => .ok (.role x.role)
      | none => .error .notFound := by
  show ((empty.replay calls).getRole u).map UserAnswer.role = _
  rw [getRole, replay_find?]
  cases UserHistory.user calls u <;> rfl

/-- A read of a profile answers the record and login information the history gives, or that
there is no record. -/
theorem replay_getMe (u : String) :
    ((empty.replay calls).call now (.getMe u)).1 =
      match UserHistory.user calls u with
      | some x => .ok (.me (Me.compose x (UserHistory.login calls u)))
      | none => .error .notFound := by
  show ((empty.replay calls).getMe u).map UserAnswer.me = _
  rw [getMe, replay_find?, replay_loginOf?]
  cases UserHistory.user calls u <;> rfl

end MemoryUsers

/-- **The directory follows its history.** After any run of calls on a new in-memory directory,
each id has the record its history gives: created by the first call that named it, with the last
role and nickname written for it, and modified last by the last of those writes. It has the last
login information saved for it, and a read of its role or profile answers from these, or that
there is no record exactly when the history never created one. Every call, on any directory,
changes the record of no id but the one it names and the login information of no id but the one
it saves it for; a creation leaves an existing record as it is, and a role or a nickname write
changes that field and the modification instant of the record found or of a new one. -/
theorem directory_follows_history (calls : List (UserCall × Timestamp)) (u : String) (now : Timestamp) :
    let d := MemoryUsers.empty.replay calls
    (d.find? u = UserHistory.user calls u ∧ d.loginOf? u = UserHistory.login calls u) ∧
    (d.call now (.getRole u)).1 = (match UserHistory.user calls u with
      | some x => .ok (.role x.role)
      | none => .error .notFound) ∧
    (d.call now (.getMe u)).1 = (match UserHistory.user calls u with
      | some x => .ok (.me (Me.compose x (UserHistory.login calls u)))
      | none => .error .notFound) ∧
    (∀ (d : MemoryUsers) (c : UserCall) (t : Timestamp) (v : String),
      (c.creates ≠ some v → (d.call t c).2.find? v = d.find? v) ∧
      (c.loginFor v = none → (d.call t c).2.loginOf? v = d.loginOf? v)) ∧
    (∀ (d : MemoryUsers) (id : String) (t : Timestamp),
      (d.find? id).isSome → (d.call t (.ensureExists id)).2 = d) ∧
    (∀ (d : MemoryUsers) (id : String) (r : Role) (t : Timestamp),
      (d.call t (.setRole id r)).2.find? id = some { d.entry id t with role := r, updatedAt := t }) ∧
    (∀ (d : MemoryUsers) (id n : String) (t : Timestamp),
      (d.call t (.setNickname id n)).2.find? id = some { d.entry id t with nickname := n, updatedAt := t }) := by
  intro d
  refine ⟨⟨MemoryUsers.replay_find? calls u, MemoryUsers.replay_loginOf? calls u⟩,
    MemoryUsers.replay_getRole now calls u, MemoryUsers.replay_getMe now calls u, ?_, ?_, ?_, ?_⟩
  · intro d c t v
    exact ⟨d.find?_call_of_creates_ne t, d.loginOf?_call_of_loginFor t⟩
  · intro d id t h
    exact d.ensureExists_of_isSome t h
  · intro d id r t
    rw [MemoryUsers.find?_setRole, if_pos rfl]
  · intro d id n t
    rw [MemoryUsers.find?_setNickname, if_pos rfl]

end Warden
