import Mathlib
import Warden.Proofs.SessionStores
import Warden.Proofs.UserHistory
import Warden.Proofs.UserRecords

/-!
# The durable directory answers as the one in memory

Both user directories take the same calls (`UserCall`). The in-memory one keeps lists of users
and login information; the durable one keeps two trees of JSON texts, keyed by user id, decodes
a record on every read, and lists users in key order before sorting them. Run from empty on the
same calls at the same readings of the wall clock, the two give the same answer to every call
(`durable_answers_eq_memory_answers`), as long as every reading is an instant a date can carry
(`Instant`): the durable directory writes instants as RFC 3339 text, and only such instants read
back.

## The invariant

The durable directory *mirrors* the in-memory one (`Mirrors`) when each of its trees holds the
texts of the corresponding list (`Tree.Holds`): the tree's entries are the values' keys and texts
in some order, no key comes twice, and the keys are in increasing order, as the tree keeps them;
and every user's instants are ones a date can carry. Under it every read of the durable
directory decodes what the in-memory one holds (`Mirrors.find?`, `Mirrors.loginOf?`), and every
write keeps it (`Mirrors.call`), because a tree insertion is a list insertion up to order
(`Tree.put_perm`).

## The listing

The in-memory listing sorts its users as the list holds them, the durable one as the keys order
them. The comparison is the order of a key, later creation first and then smaller id
(`newerFirst_iff`), so it is total and transitive; it ties two users only when their ids agree.
A stable sort of users with distinct ids therefore does not depend on the order it starts from
(`sortNewestFirst_eq_of_perm`).
-/

namespace Warden

/-! ## Entries with distinct keys -/

section Lookup

variable {β : Type}

/-- In entries whose keys are distinct, a key's value is the one it is paired with. -/
theorem lookup_eq_some_iff_mem {l : List (String × β)} (hnd : (l.map (·.1)).Nodup) {k : String} {b : β} :
    l.lookup k = some b ↔ (k, b) ∈ l := by
  induction l with
  | nil => simp
  | cons e l ih =>
    obtain ⟨a, c⟩ := e
    rw [List.map_cons, List.nodup_cons] at hnd
    rw [lookup_cons_ite, List.mem_cons]
    by_cases hk : k = a
    · subst hk
      -- the key occurs nowhere else
      have hnot : (k, b) ∉ l := fun hm => hnd.1 (List.mem_map_of_mem (f := (·.1)) hm)
      simp [hnot, eq_comm]
    · simp [hk, ih hnd.2]

/-- Entries with distinct keys answer a lookup alike in any order. -/
theorem lookup_perm {l₁ l₂ : List (String × β)} (hp : l₁.Perm l₂) (hnd : (l₂.map (·.1)).Nodup)
    (k : String) : l₁.lookup k = l₂.lookup k := by
  have hnd₁ : (l₁.map (·.1)).Nodup := (hp.map _).nodup_iff.2 hnd
  apply Option.ext
  intro b
  rw [lookup_eq_some_iff_mem hnd₁, lookup_eq_some_iff_mem hnd, hp.mem_iff]

/-- Looking up the entries of values is finding the value of the key. -/
theorem lookup_map_pair {α : Type} (key : α → String) (text : α → β) (xs : List α) (k : String) :
    (xs.map fun x => (key x, text x)).lookup k = (xs.find? (key · == k)).map text := by
  induction xs with
  | nil => rfl
  | cons x xs ih =>
    rw [List.map_cons, lookup_cons_ite, ih, List.find?_cons]
    by_cases hk : key x = k
    · simp [hk]
    · simp [Ne.symm hk, beq_false_of_ne hk]

end Lookup

/-! ## Trees in key order -/

namespace Tree

/-- Entries in strictly increasing key order, as a tree keeps them. -/
def Ordered (es : List (String × String)) : Prop := es.Pairwise fun a b => a.1 < b.1

theorem mem_put {k v : String} {es : List (String × String)} {e : String × String} (h : e ∈ put k v es) :
    e = (k, v) ∨ e ∈ es := by
  induction es with
  | nil => simpa [put] using h
  | cons e' es ih =>
    unfold put at h
    split at h
    · simpa using h
    · split at h
      · simp only [List.mem_cons] at h
        rcases h with h | h
        · exact .inl h
        · exact .inr (List.mem_cons_of_mem _ h)
      · simp only [List.mem_cons] at h
        rcases h with h | h
        · exact .inr (h ▸ List.mem_cons_self)
        · exact (ih h).imp_right (List.mem_cons_of_mem _)

/-- An insertion keeps the keys in order. -/
theorem ordered_put (k v : String) {es : List (String × String)} (h : Ordered es) : Ordered (put k v es) := by
  induction es with
  | nil => exact List.pairwise_singleton _ _
  | cons e es ih =>
    obtain ⟨k', v'⟩ := e
    rw [Ordered, List.pairwise_cons] at h
    unfold put
    split
    · -- before the first key, and so before all of them
      rename_i hlt
      refine List.Pairwise.cons (fun e he => ?_) (List.Pairwise.cons h.1 h.2)
      rcases List.mem_cons.1 he with rfl | he
      · exact hlt
      · exact lt_trans hlt (h.1 e he)
    · split
      · -- in place of the first key
        rename_i _ heq
        subst heq
        exact List.Pairwise.cons h.1 h.2
      · -- after the first key
        rename_i hnlt hne
        have hgt : k' < k := lt_of_le_of_ne (not_lt.1 hnlt) (Ne.symm hne)
        refine List.Pairwise.cons (fun e he => ?_) (ih h.2)
        rcases mem_put he with rfl | he
        · exact hgt
        · exact h.1 e he

/-- An insertion into entries in key order is the new entry before the others under other keys. -/
theorem put_perm (k v : String) {es : List (String × String)} (h : Ordered es) :
    (put k v es).Perm ((k, v) :: es.filter (·.1 != k)) := by
  induction es with
  | nil => rfl
  | cons e es ih =>
    obtain ⟨k', v'⟩ := e
    rw [Ordered, List.pairwise_cons] at h
    -- the keys after the first are above it
    have habove : ∀ e ∈ es, k' < e.1 := h.1
    unfold put
    split
    · rename_i hlt
      have hkeep : ((k', v') :: es).filter (·.1 != k) = (k', v') :: es := by
        rw [List.filter_eq_self]
        intro e he
        rcases List.mem_cons.1 he with rfl | he
        · simpa using (ne_of_lt hlt).symm
        · simpa using (ne_of_lt (lt_trans hlt (habove e he))).symm
      rw [hkeep]
    · split
      · rename_i _ heq
        subst heq
        have hdrop : ((k, v') :: es).filter (·.1 != k) = es := by
          rw [List.filter_cons_of_neg (by simp), List.filter_eq_self]
          intro e he
          simpa using (ne_of_lt (habove e he)).symm
        rw [hdrop]
      · rename_i _ hne
        rw [List.filter_cons_of_pos (by simpa using Ne.symm hne)]
        exact ((ih h.2).cons _).trans (List.Perm.swap _ _ _)

/-- A tree holds the texts of some values, each under its key. -/
structure Holds {α : Type} (key : α → String) (text : α → String) (t : Tree) (xs : List α) : Prop where
  /-- The entries are the values' keys and texts, in some order. -/
  perm : t.entries.Perm (xs.map fun x => (key x, text x))
  /-- No key comes twice. -/
  nodup : (xs.map key).Nodup
  /-- The keys are in increasing order. -/
  ordered : Ordered t.entries

namespace Holds

variable {α : Type} {key : α → String} {text : α → String} {t : Tree} {xs : List α}

theorem empty : Holds key text Tree.empty [] := ⟨.nil, .nil, .nil⟩

/-- The text under a key is the text of the value of that key. -/
theorem find? (h : Holds key text t xs) (k : String) : t.find? k = (xs.find? (key · == k)).map text := by
  have hnd : ((xs.map fun x => (key x, text x)).map (·.1)).Nodup := by
    rw [List.map_map]
    exact h.nodup
  rw [Tree.find?, lookup_perm h.perm hnd, lookup_map_pair]

/-- The texts, in key order, are the texts of the values in some order. -/
theorem values (h : Holds key text t xs) : ∃ ys : List α, ys.Perm xs ∧ t.values = ys.map text := by
  obtain ⟨ys, hys, hperm⟩ :=
    (congrFun (congrFun (List.eq_map_comp_perm fun x => (key x, text x)) t.entries) xs).mpr h.perm
  refine ⟨ys, hperm, ?_⟩
  rw [Tree.values, hys, List.map_map]
  rfl

/-- An insertion under a value's key holds the value in place of the one of its key. -/
theorem insert (h : Holds key text t xs) (x : α) {k : String} (hk : key x = k) :
    Holds key text (t.insert k (text x)) (x :: xs.filter (key · != key x)) := by
  subst hk
  refine ⟨?_, ?_, ordered_put _ _ h.ordered⟩
  · have hfilter : (xs.map fun x => (key x, text x)).filter (·.1 != key x) =
        (xs.filter (key · != key x)).map fun x => (key x, text x) := by
      rw [List.filter_map]
      rfl
    refine (put_perm _ _ h.ordered).trans (List.Perm.cons _ ?_)
    rw [← hfilter]
    exact h.perm.filter _
  · rw [List.map_cons, List.nodup_cons]
    refine ⟨fun hmem => ?_, h.nodup.sublist ((List.filter_sublist).map _)⟩
    obtain ⟨y, hy, hyk⟩ := List.mem_map.1 hmem
    simp [hyk] at hy

end Holds

end Tree

/-! ## The listing order -/

/-- The place of a user in a listing: later creation first, then smaller id. -/
def listingKey (u : User) : Lex (Lex (Int × Int) × String) :=
  toLex (toLex (-u.createdAt.secs, -(u.createdAt.nanos : Int)), u.id)

/-- The listing compares users by their places. -/
theorem newerFirst_iff (a b : User) : newerFirst a b = true ↔ listingKey a ≤ listingKey b := by
  obtain ⟨ia, na, ra, ⟨sa, fa⟩, ua⟩ := a
  obtain ⟨ib, nb, rb, ⟨sb, fb⟩, ub⟩ := b
  -- a place is compared by its time and then by its id
  simp only [newerFirst, listingKey, Prod.Lex.toLex_le_toLex, Prod.Lex.toLex_lt_toLex, Bool.or_eq_true,
    Bool.and_eq_true, Timestamp.lt_iff, beq_iff_eq, decide_eq_true_eq, Timestamp.mk.injEq, toLex_inj,
    Prod.mk.injEq, neg_lt_neg_iff, neg_inj, Nat.cast_lt, Nat.cast_inj, @eq_comm _ sb sa]

/-- Two users in the same place have the same id. -/
theorem id_eq_of_listingKey_eq {a b : User} (h : listingKey a = listingKey b) : a.id = b.id :=
  congrArg (fun k => (ofLex k).2) h

/-- The sorted users are in listing order: each comes no later than those after it. -/
theorem pairwise_sortNewestFirst (us : List User) :
    (sortNewestFirst us).Pairwise fun a b => newerFirst a b = true := by
  have htrans : ∀ a b c, newerFirst a b = true → newerFirst b c = true → newerFirst a c = true := by
    intro a b c hab hbc
    rw [newerFirst_iff] at *
    exact le_trans hab hbc
  have htotal : ∀ a b, (newerFirst a b || newerFirst b a) = true := by
    intro a b
    rw [Bool.or_eq_true, newerFirst_iff, newerFirst_iff]
    exact le_total _ _
  exact List.pairwise_mergeSort htrans htotal us

/-- **One listing order.** Users with distinct ids sort alike from any order. -/
theorem sortNewestFirst_eq_of_perm {us vs : List User} (hp : us.Perm vs) (hnd : (vs.map User.id).Nodup) :
    sortNewestFirst us = sortNewestFirst vs := by
  refine List.Perm.eq_of_pairwise ?_ (pairwise_sortNewestFirst us) (pairwise_sortNewestFirst vs)
    ((List.mergeSort_perm us _).trans (hp.trans (List.mergeSort_perm vs _).symm))
  -- two users that each sort before the other are in one place, so they share an id
  intro a b ha hb hab hba
  rw [newerFirst_iff] at hab hba
  have hid := id_eq_of_listingKey_eq (le_antisymm hab hba)
  exact List.inj_on_of_nodup_map hnd (hp.subset ((List.mergeSort_perm us _).subset ha))
    ((List.mergeSort_perm vs _).subset hb) hid

/-! ## Reading records -/

/-- A decoding that gives every member of a list a value answers the list of their values. -/
theorem mapM_eq_ok {α β ε : Type} {f : α → Except ε β} {g : α → β} {xs : List α}
    (h : ∀ x ∈ xs, f x = .ok (g x)) : xs.mapM f = .ok (xs.map g) := by
  induction xs with
  | nil => rfl
  | cons x xs ih =>
    rw [List.mapM_cons, h x List.mem_cons_self, ih fun y hy => h y (List.mem_cons_of_mem _ hy)]
    rfl

/-- A decoding that undoes the encoding on every member of a list decodes the encoded list. -/
theorem mapM_decode_map {α : Type} {dec : String → Except StoreError α} {enc : α → String} {ys : List α}
    (h : ∀ y ∈ ys, dec (enc y) = .ok y) : (ys.map enc).mapM dec = .ok ys := by
  have hdecoded : ys.mapM (dec ∘ enc) = .ok (ys.map id) := mapM_eq_ok h
  rw [List.mapM_map, hdecoded, List.map_id]

/-- A record read from a tree that holds values, each stored as a text that decodes to it, is the
value of its key. -/
theorem Tree.Holds.decode {α : Type} {key : α → String} {text : α → String} {t : Tree} {xs : List α}
    {r : Json.Reader α} (h : t.Holds key text xs) (hdec : ∀ x ∈ xs, decodeRecord r (text x) = .ok x)
    (k : String) :
    (match t.find? k with
      | none => .ok none
      | some s => some <$> decodeRecord r s) = Except.ok (xs.find? (key · == k)) := by
  rw [h.find? k]
  cases hx : xs.find? (key · == k) with
  | none => rfl
  | some x =>
    show some <$> decodeRecord r (text x) = _
    rw [hdec x (List.mem_of_find?_eq_some hx)]
    rfl

/-! ## The invariant -/

/-- The durable directory holds the records of the in-memory one. -/
structure Mirrors (m : MemoryUsers) (d : DurableUsers) : Prop where
  /-- The user tree holds the users' texts under their ids. -/
  users : d.users.Holds User.id (fun u => u.toJson.compact) m.users
  /-- The login tree holds the login information's texts under its user ids. -/
  logins : d.logins.Holds LoginInfo.userId (fun i => i.toJson.compact) m.logins
  /-- Every user's instants are ones a date can carry. -/
  storable : ∀ u ∈ m.users, u.Storable

namespace Mirrors

variable {m : MemoryUsers} {d : DurableUsers}

theorem empty : Mirrors MemoryUsers.empty DurableUsers.empty :=
  ⟨Tree.Holds.empty, Tree.Holds.empty, fun _ hu => nomatch hu⟩

/-! ### Reads -/

/-- A user read from the durable directory is the one in memory. -/
theorem find? (h : Mirrors m d) (id : String) : d.find? id = .ok (m.find? id) :=
  h.users.decode (fun u hu => User.decode_toJson (h.storable u hu)) id

/-- Login information read from the durable directory is the one in memory. -/
theorem loginOf? (h : Mirrors m d) (id : String) : d.loginOf? id = .ok (m.loginOf? id) :=
  h.logins.decode (fun i _ => LoginInfo.decode_toJson i) id

theorem getRole (h : Mirrors m d) (id : String) : d.getRole id = m.getRole id := by
  unfold DurableUsers.getRole MemoryUsers.getRole
  rw [h.find? id]
  cases m.find? id <;> rfl

theorem getMe (h : Mirrors m d) (id : String) : d.getMe id = m.getMe id := by
  unfold DurableUsers.getMe MemoryUsers.getMe
  rw [h.find? id]
  cases m.find? id with
  | none => rfl
  | some u =>
    show (do return Me.compose u (← d.loginOf? id)) = _
    rw [h.loginOf? id]
    rfl

/-- The durable listing is the in-memory one: its users decode to the users in memory, in another
order that the sort forgets, and each is joined with the same login information. -/
theorem listUsers (h : Mirrors m d) (p : Page) : d.listUsers p = .ok (m.listUsers p) := by
  obtain ⟨ys, hperm, hvalues⟩ := h.users.values
  have hall : d.allUsers = .ok ys := by
    rw [DurableUsers.allUsers, hvalues]
    exact mapM_decode_map fun y hy => User.decode_toJson (h.storable y (hperm.subset hy))
  have hsort : sortNewestFirst ys = sortNewestFirst m.users := sortNewestFirst_eq_of_perm hperm h.users.nodup
  have hjoin : (fun u => do return AdminUser.compose u (← d.loginOf? u.id)) =
      fun u => (pure (AdminUser.compose u (m.loginOf? u.id)) : Except StoreError AdminUser) := by
    funext u
    rw [h.loginOf? u.id]
    rfl
  unfold DurableUsers.listUsers MemoryUsers.listUsers
  rw [hall]
  show List.mapM _ (p.window (sortNewestFirst ys)) = _
  rw [hsort, hjoin, List.mapM_pure]
  rfl

/-! ### Writes -/

/-- Putting a user whose instants a date can carry, under its id, keeps the mirror. -/
theorem put (h : Mirrors m d) {u : User} (hu : u.Storable) {k : String} (hk : u.id = k) :
    Mirrors (m.put u) { d with users := d.users.insert k u.toJson.compact } := by
  refine ⟨h.users.insert u hk, h.logins, fun v hv => ?_⟩
  rcases List.mem_cons.1 hv with rfl | hv
  · exact hu
  · exact h.storable v (List.mem_of_mem_filter hv)

theorem ensureExists (h : Mirrors m d) {now : Timestamp} (hnow : now.Valid) (id : String) :
    Mirrors (m.ensureExists id now) (d.ensureExists id now) := by
  -- a record is stored under the id exactly when the user is in memory
  have hsome : (d.users.find? id).isSome = (m.find? id).isSome := by
    rw [h.users.find? id, Option.isSome_map]
    rfl
  unfold MemoryUsers.ensureExists DurableUsers.ensureExists
  rw [hsome]
  split
  · exact h
  · exact h.put ⟨hnow, hnow⟩ rfl

theorem saveLoginInfo (h : Mirrors m d) (info : LoginInfo) :
    Mirrors (m.saveLoginInfo info) (d.saveLoginInfo info) :=
  ⟨h.users, h.logins.insert info rfl, h.storable⟩

/-- A change that keeps a user's id and creation instant is written back as the in-memory
directory makes it. -/
theorem modify (h : Mirrors m d) {now : Timestamp} (hnow : now.Valid) (id : String) (f : User → User)
    (hf : ∀ u, (f u).id = u.id ∧ (f u).createdAt = u.createdAt) :
    ∃ d', d.modify id f now = .ok d' ∧ Mirrors (m.modify id f now) d' := by
  -- the user changed is the one found in memory, or a new one created now
  have hcreated : (m.entry id now).createdAt.Valid := by
    cases hu : m.find? id with
    | none =>
      rw [m.entry_of_missing now hu]
      exact hnow
    | some v =>
      rw [m.entry_of_find? now hu]
      exact (h.storable v (List.mem_of_find?_eq_some hu)).1
  have hu : ({ f (m.entry id now) with updatedAt := now } : User).Storable := by
    refine ⟨?_, hnow⟩
    show (f (m.entry id now)).createdAt.Valid
    rw [(hf _).2]
    exact hcreated
  refine ⟨_, ?_, h.put hu ((hf _).1.trans (m.entry_id id now))⟩
  unfold DurableUsers.modify
  rw [h.find? id]
  rfl

end Mirrors

/-! ## Calls -/

namespace DurableUsers

/-- The answer of a write and the directory after it: a failed write leaves it as it was. -/
def written (d : DurableUsers) : Except StoreError DurableUsers → Except StoreError UserAnswer × DurableUsers
  | .ok d' => (.ok .done, d')
  | .error e => (.error e, d)

/-- One call on the durable directory at the wall-clock reading `now`: its answer and the
directory after it. -/
def call (d : DurableUsers) (now : Timestamp) : UserCall → Except StoreError UserAnswer × DurableUsers
  | .ensureExists id => (.ok .done, d.ensureExists id now)
  | .saveLoginInfo info => (.ok .done, d.saveLoginInfo info)
  | .getRole id => ((d.getRole id).map .role, d)
  | .setRole id r => d.written (d.modify id (fun u => { u with role := r }) now)
  | .listUsers p => ((d.listUsers p).map .users, d)
  | .getMe id => ((d.getMe id).map .me, d)
  | .setNickname id n => d.written (d.modify id (fun u => { u with nickname := n }) now)

end DurableUsers

/-- The answers of a run of calls on a directory, each call at its reading of the wall clock, an
instant a date can carry. -/
def UserCall.answers {σ : Type} (call : σ → Timestamp → UserCall → Except StoreError UserAnswer × σ) :
    σ → List (UserCall × Instant) → List (Except StoreError UserAnswer)
  | _, [] => []
  | s, c :: cs => (call s c.2 c.1).1 :: answers call (call s c.2 c.1).2 cs

namespace Mirrors

variable {m : MemoryUsers} {d : DurableUsers}

/-- A role or nickname write keeps the mirror and answers as in memory. -/
theorem written_modify (h : Mirrors m d) {now : Timestamp} (hnow : now.Valid) (id : String) (f : User → User)
    (hf : ∀ u, (f u).id = u.id ∧ (f u).createdAt = u.createdAt) :
    (d.written (d.modify id f now)).1 = .ok .done ∧ Mirrors (m.modify id f now) (d.written (d.modify id f now)).2 := by
  obtain ⟨d', hd', hm⟩ := h.modify hnow id f hf
  rw [hd']
  exact ⟨rfl, hm⟩

/-- **One call.** A durable directory that mirrors the in-memory one answers a call made at an
instant a date can carry as the in-memory one does, and mirrors it after the call. -/
theorem call (h : Mirrors m d) {now : Timestamp} (hnow : now.Valid) (c : UserCall) :
    (d.call now c).1 = (m.call now c).1 ∧ Mirrors (m.call now c).2 (d.call now c).2 := by
  cases c with
  | ensureExists id => exact ⟨rfl, h.ensureExists hnow id⟩
  | saveLoginInfo info => exact ⟨rfl, h.saveLoginInfo info⟩
  | getRole id => exact ⟨congrArg (Except.map _) (h.getRole id), h⟩
  | setRole id r => exact h.written_modify hnow id _ fun _ => ⟨rfl, rfl⟩
  | listUsers p =>
    refine ⟨?_, h⟩
    show (d.listUsers p).map UserAnswer.users = .ok (.users (m.listUsers p))
    rw [h.listUsers p]
    rfl
  | getMe id => exact ⟨congrArg (Except.map _) (h.getMe id), h⟩
  | setNickname id n => exact h.written_modify hnow id _ fun _ => ⟨rfl, rfl⟩

/-- **A whole run.** Along calls made at instants a date can carry, a durable directory that
mirrors the in-memory one gives the same answers. -/
theorem answers (h : Mirrors m d) (calls : List (UserCall × Instant)) :
    UserCall.answers DurableUsers.call d calls = UserCall.answers MemoryUsers.call m calls := by
  induction calls generalizing m d with
  | nil => rfl
  | cons c cs ih =>
    -- the first call answers alike and keeps the mirror, which carries the rest of the run
    obtain ⟨hfirst, hnext⟩ := h.call c.2.2 c.1
    rw [UserCall.answers, UserCall.answers, hfirst, ih hnext]

end Mirrors

/-- **The durable directory answers as the one in memory.** From empty, along any calls made at
instants a date can carry, the durable directory gives every call the answer the in-memory
directory gives it: the same roles, profiles and pages, in the same order, and the same
errors. -/
theorem durable_answers_eq_memory_answers (calls : List (UserCall × Instant)) :
    UserCall.answers DurableUsers.call DurableUsers.empty calls =
      UserCall.answers MemoryUsers.call MemoryUsers.empty calls :=
  Mirrors.empty.answers calls

/-- A user is created, promoted and listed, a second apart: both directories answer alike. -/
theorem durable_answers_eq_memory_answers_after_promotion :
    let calls : List (UserCall × Instant) :=
      [(.ensureExists "u-1", ⟨⟨1767225600, 0⟩, by decide⟩), (.setRole "u-1" .admin, ⟨⟨1767225601, 0⟩, by decide⟩),
        (.listUsers ⟨50, 0⟩, ⟨⟨1767225602, 0⟩, by decide⟩)]
    UserCall.answers DurableUsers.call DurableUsers.empty calls =
      UserCall.answers MemoryUsers.call MemoryUsers.empty calls :=
  durable_answers_eq_memory_answers _

end Warden
