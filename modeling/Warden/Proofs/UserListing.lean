import Warden.Cli.Run
import Warden.Proofs.DurableDirectory
import Warden.Proofs.Guarded
import Warden.Proofs.RoleAssignment

/-!
# The user listing

An administrator pages through the users newest first. A raw request carries a limit and an
offset, each a signed number or absent: a limit that is absent or not positive takes the
deployment's default page size, and an offset that is absent or not positive is zero
(`Page.normalize_eq`). The page is a window of the users in *listing order*: later creation
first, and among users created at the same instant the smaller id first (`User.ListedBefore`).

## One order, whatever the store

A directory enumerates its users in an order of its own: the order of its list in memory, the
order of the keys in a durable tree. The sort forgets it. Listing order is strict on users with
distinct ids, so a directory's users have exactly one arrangement in it, and the sort finds that
arrangement from any enumeration (`sortNewestFirst_eq_of_listed`). Pages of one size at
consecutive offsets therefore cut that one arrangement into consecutive pieces
(`Page.flatMap_window_range`): together they list every user once.

## The answer of a request

A caller authorized for the listing held a live session and a role that admits it, so the
authorization created no record and left the directory as it found it
(`Access.authorize_gated_ok`). The service then answers the window of the directory's users in
listing order, each joined with its login information (`users_listing_window`). The command line
computes the same window over the durable directory.
-/

namespace Warden

/-! ## Listing order -/

namespace User

/-- `a` is listed before `b`: it was created later, or at the same instant with a smaller id. -/
def ListedBefore (a b : User) : Prop :=
  b.createdAt.lt a.createdAt = true ∨ (a.createdAt = b.createdAt ∧ a.id < b.id)

/-- Being listed before another user is having the smaller place. -/
theorem listedBefore_iff (a b : User) : a.ListedBefore b ↔ listingKey a < listingKey b := by
  obtain ⟨ia, na, ra, ⟨sa, fa⟩, ua⟩ := a
  obtain ⟨ib, nb, rb, ⟨sb, fb⟩, ub⟩ := b
  simp only [ListedBefore, listingKey, Prod.Lex.toLex_lt_toLex, Timestamp.lt_iff, Timestamp.mk.injEq,
    toLex_inj, Prod.mk.injEq, neg_lt_neg_iff, neg_inj, Nat.cast_lt, Nat.cast_inj, @eq_comm _ sb sa,
    and_assoc]

end User

variable {us S : List User}

/-- Users listed in order have pairwise distinct places. -/
theorem nodup_listingKey (hS : S.Pairwise User.ListedBefore) : (S.map listingKey).Nodup :=
  List.pairwise_map.2 (hS.imp fun h => ne_of_lt ((User.listedBefore_iff _ _).1 h))

/-- **The listing order is the sort's.** A list of the users in listing order is what the sort
makes of them, from whatever order they come in. -/
theorem sortNewestFirst_eq_of_listed (hp : S.Perm us) (hS : S.Pairwise User.ListedBefore) :
    sortNewestFirst us = S := by
  have hsorted : S.Pairwise fun a b => newerFirst a b = true :=
    hS.imp fun h => (newerFirst_iff _ _).2 (le_of_lt ((User.listedBefore_iff _ _).1 h))
  refine List.Perm.eq_of_pairwise ?_ (pairwise_sortNewestFirst us) hsorted
    ((List.mergeSort_perm us _).trans hp.symm)
  -- two users that each sort before the other share a place, and places in `S` are distinct
  intro a b ha hb hab hba
  rw [newerFirst_iff] at hab hba
  have ha' : a ∈ S := hp.symm.subset ((List.mergeSort_perm us _).subset ha)
  exact List.inj_on_of_nodup_map (nodup_listingKey hS) ha' hb (le_antisymm hab hba)

/-- Users with distinct ids sort into listing order. -/
theorem listed_sortNewestFirst (hnd : (us.map User.id).Nodup) :
    (sortNewestFirst us).Pairwise User.ListedBefore := by
  have hids : (sortNewestFirst us).Pairwise fun a b => a.id ≠ b.id :=
    List.pairwise_map.1 (((List.mergeSort_perm us _).map User.id).nodup_iff.2 hnd)
  refine ((pairwise_sortNewestFirst us).and hids).imp fun ⟨hle, hne⟩ => ?_
  rw [User.listedBefore_iff]
  exact lt_of_le_of_ne ((newerFirst_iff _ _).1 hle) fun heq => hne (id_eq_of_listingKey_eq heq)

/-! ## Pages -/

namespace Page

/-- The page of a raw request: the limit if it is positive and the default otherwise, the offset
if it is positive and zero otherwise. -/
theorem normalize_eq (limit offset : Option Int) (d : Nat) :
    normalize limit offset d =
      ⟨((limit.filter (0 < ·)).map Int.toNat).getD d, ((offset.filter (0 < ·)).map Int.toNat).getD 0⟩ := by
  simp only [normalize]
  congr 1
  · cases limit with
    | none => rfl
    | some n => by_cases hn : 0 < n <;> simp [hn, Option.filter]
  · cases offset with
    | none => rfl
    | some n => by_cases hn : 0 < n <;> simp [hn, Option.filter]

/-- The rows of a page are rows of the listing. -/
theorem mem_of_mem_window {α : Type} {p : Page} {rows : List α} {x : α} (h : x ∈ p.window rows) :
    x ∈ rows :=
  List.drop_subset _ _ (List.take_subset _ _ h)

/-- The first `k` pages of `lim` rows, one after the other, are the first `k * lim` rows. -/
theorem flatMap_window_range {α : Type} (rows : List α) (lim k : Nat) :
    (List.range k).flatMap (fun i => window ⟨lim, i * lim⟩ rows) = rows.take (k * lim) := by
  induction k with
  | zero => simp
  | succ k ih =>
    rw [List.range_succ, List.flatMap_append, ih, Nat.succ_mul, List.take_add]
    simp [window]

end Page

/-! ## What a directory lists -/

namespace Stores

/-- The users of a directory read as `U`, and the login information of each of them, looked up by
its id, as `L` of that id: in memory as they are held, durably as they decode. -/
def Lists : Stores → List User → (String → Option LoginInfo) → Prop
  | .memory _ us, U, L => us.users = U ∧ ∀ u ∈ U, us.loginOf? u.id = L u.id
  | .durable _ d _, U, L => d.allUsers = .ok U ∧ ∀ u ∈ U, d.loginOf? u.id = .ok (L u.id)

/-- A page of the users of a directory, as its listing answers it. -/
def listing : Stores → Page → Except StoreError (List AdminUser)
  | .memory _ us, p => .ok (us.listUsers p)
  | .durable _ d _, p => d.listUsers p

end Stores

section Listing

variable {U S : List User} {L : String → Option LoginInfo}

/-- A page is the directory's listing of that page. -/
theorem Sim.listUsers_run {ds : List Nat} {w : World} (p : Page) :
    Sim.listUsers p ds w = .ok (w.stores.listing p) w := by
  rw [Sim.listUsers, Sim.bind_ok Sim.world_run]
  cases w.stores <;> rfl

/-- In memory, a page is the window of the users in listing order. -/
theorem MemoryUsers.listUsers_eq_window (d : MemoryUsers) (p : Page) (hp : S.Perm d.users)
    (hS : S.Pairwise User.ListedBefore) :
    d.listUsers p = (p.window S).map fun u => AdminUser.compose u (d.loginOf? u.id) := by
  rw [MemoryUsers.listUsers, sortNewestFirst_eq_of_listed hp hS]

/-- Durably, when every record decodes, a page is the window of the decoded users in listing
order. -/
theorem DurableUsers.listUsers_eq_window {d : DurableUsers} (hall : d.allUsers = .ok U)
    (hlogin : ∀ u ∈ U, d.loginOf? u.id = .ok (L u.id)) (p : Page) (hp : S.Perm U)
    (hS : S.Pairwise User.ListedBefore) :
    d.listUsers p = .ok ((p.window S).map fun u => AdminUser.compose u (L u.id)) := by
  unfold DurableUsers.listUsers
  rw [hall]
  show List.mapM _ (p.window (sortNewestFirst U)) = _
  rw [sortNewestFirst_eq_of_listed hp hS]
  refine mapM_eq_ok fun u hu => ?_
  -- a user of the page is one of the directory's, so its login information decodes
  have hmem : u ∈ U := hp.subset (Page.mem_of_mem_window hu)
  show (do return AdminUser.compose u (← d.loginOf? u.id)) = _
  rw [hlogin u hmem]
  rfl

/-- A directory that lists `U` and `L` answers a page as the window of `U` in listing order. -/
theorem Stores.listing_eq_window {st : Stores} (h : st.Lists U L) (p : Page) (hp : S.Perm U)
    (hS : S.Pairwise User.ListedBefore) :
    st.listing p = .ok ((p.window S).map fun u => AdminUser.compose u (L u.id)) := by
  cases st with
  | memory ss us =>
    obtain ⟨rfl, hlogin⟩ := h
    rw [Stores.listing, us.listUsers_eq_window p hp hS]
    refine congrArg Except.ok (List.map_congr_left fun u hu => ?_)
    rw [hlogin u (hp.subset (Page.mem_of_mem_window hu))]
  | durable ss d sep => exact DurableUsers.listUsers_eq_window h.1 h.2 p hp hS

end Listing

/-! ## What an authorization leaves -/

namespace World

variable {w : World} {U : List User} {L : String → Option LoginInfo}

/-- A session lookup leaves the user directory alone. -/
theorem lists_getSession (h : w.stores.Lists U L) (id : SessionId) : (w.getSession id).2.stores.Lists U L := by
  cases hs : w.stores with
  | memory ss us =>
    rw [getSession_of_memory hs]
    rw [hs] at h
    exact h
  | durable ss d sep =>
    rw [getSession_of_durable hs]
    rw [hs] at h
    exact h

theorem lists_sessionAnswer (h : w.stores.Lists U L) (t : Duration) (id : SessionId) :
    (w.sessionAnswer t id).2.stores.Lists U L := by
  unfold sessionAnswer topStoreAnswer
  exact topAnswer_snd (P := fun w' => w'.stores.Lists U L) (lists_getSession h id) h fun _ => h

/-- The policy's calls change only the stores and the clocks. -/
theorem storesAndClocks_of_authorize {w₁ : World} {t : Duration} {id : SessionId} {op : Operation}
    {x : Except AccessError Access.Principal} (h : ((worldPolicy t).authorize id op).run [] w = .ok x w₁) :
    StoresAndClocks w w₁ := by
  have hkeeps := Access.keeps_authorize storesAndClocks_policyFrame t id op [] w
  rw [h] at hkeeps
  exact hkeeps

end World

namespace Access

variable {w w₁ : World} {t : Duration} {id : SessionId} {op : Operation} {pr : Principal}

/-- **An authorization that needs a role.** A caller authorized for an operation that needs more
than a signed-in caller presented a live session, and the role read of its owner answered a role
that the operation admits. No record was created, and the world is the one that read left. -/
theorem authorize_gated_ok (hop : op.clearance ≠ .signedIn)
    (h : ((worldPolicy t).authorize id op).run [] w = .ok (.ok pr) w₁) :
    ∃ s r, (w.sessionAnswer t id).1 = .ok s ∧
      ((w.sessionAnswer t id).2.roleAnswer t s.userId).1 = .ok r ∧ op.clearance.admits r = true ∧
      pr = ⟨s.userId, some r⟩ ∧ w₁ = ((w.sessionAnswer t id).2.roleAnswer t s.userId).2 := by
  cases hid : id.isEmpty
  case true =>
    rw [authorize_of_refused (authenticate_of_empty hid)] at h
    cases h
  cases hs : (w.sessionAnswer t id).1 with
  | error e =>
    rw [authorize_of_refused (authenticate_of_error hid hs)] at h
    cases h
  | ok s =>
    have hauth := authenticate_of_ok hid hs
    cases hr : ((w.sessionAnswer t id).2.roleAnswer t s.userId).1 with
    | ok r =>
      rw [authorize_of_role hauth hop (resolveRole_of_ok hr)] at h
      by_cases ha : op.clearance.admits r = true
      · rw [if_pos ha] at h
        obtain ⟨⟨⟩, rfl⟩ := EStateM.Result.ok.inj h
        exact ⟨s, r, rfl, hr, ha, rfl, rfl⟩
      · rw [if_neg ha] at h
        cases h
    | error e =>
      by_cases hmiss : e = .storage .notFound
      · -- the owner was created with the lowest role, which the operation refuses
        subst hmiss
        have hres := resolveRole_of_missing hr
        cases hm : (((w.sessionAnswer t id).2.roleAnswer t s.userId).2.ensureAnswer t s.userId).1 with
        | ok u =>
          rw [hm] at hres
          rw [authorize_of_role hauth hop hres, Clearance.admits_user_eq_false hop] at h
          cases h
        | error e' =>
          rw [hm] at hres
          rw [authorize_of_role_error hauth hop hres] at h
          cases h
      · rw [authorize_of_role_error hauth hop (resolveRole_of_error hr hmiss)] at h
        cases h

/-- A caller authorized for an operation that needs a role finds the user directory as it was. -/
theorem lists_of_authorize_gated {U : List User} {L : String → Option LoginInfo} (hop : op.clearance ≠ .signedIn)
    (h : ((worldPolicy t).authorize id op).run [] w = .ok (.ok pr) w₁) (hl : w.stores.Lists U L) :
    w₁.stores.Lists U L := by
  obtain ⟨s, r, -, -, -, -, rfl⟩ := authorize_gated_ok hop h
  rw [World.roleAnswer_stores]
  exact World.lists_sessionAnswer hl t id

/-! ## The answer of a listing request -/

/-- Once the caller is authorized, a listing request answers the directory's page of the
request, read in the world the authorization left. -/
theorem listUsers_of_authorized (hclear : w.faults.modeOf? .listUsers = none)
    (h : (w.services.rbac.policy.authorize id .listUsers).run [] w = .ok (.ok pr) w₁)
    (limit offset : Option Int) :
    (w.services.rbac.listUsers id limit offset).run [] w =
      .ok ((w₁.stores.listing (w.settings.page limit offset)).mapError .storage) w₁ := by
  have hf : w₁.faults = w.faults := by
    obtain ⟨st, wall, c, rfl⟩ := World.storesAndClocks_of_authorize h
    rfl
  unfold RbacService.listUsers
  rw [Sim.run_bind_ok h]
  refine (boundedStore_top (r := (w₁.stores.listing _, w₁)) fun _ => Sim.listUsers_run _).trans ?_
  rw [topStoreAnswer, topAnswer_of_clear _ (hf ▸ hclear)]
  rfl

end Access

/-- A listing on the command line prints the table of the durable directory's page. -/
theorem Cli.runUsers_listUsers {env : String → Option String} {fs fs' : Files} {c : Config} {d : DurableUsers}
    (hopen : DurableUsers.openIn fs (Config.dataDirIn env c) = .ok (fs', d)) {limit offset : Option Int}
    {rows : List AdminUser} (hlist : d.listUsers ((AccessSettings.ofConfig c).page limit offset) = .ok rows) :
    Cli.runUsers env fs c (.listUsers limit offset) = .printed (Cli.userTable rows) := by
  unfold Cli.runUsers
  dsimp only
  rw [hopen]
  dsimp only
  rw [hlist]

/-- A raw number that is a natural number is taken as it is, unless it is zero, where the default
is taken. -/
theorem getD_filter_natCast {n e : Nat} (h : 0 < n ∨ e = n) :
    (((some (n : Int)).filter (0 < ·)).map Int.toNat).getD e = n := by
  by_cases hn : 0 < n
  · simp [Option.filter, hn]
  · simp [Option.filter, hn, h.resolve_left hn]

/-! ## The listing -/

/-- **The user listing.** Take a world whose user directory holds the users `U`, in memory or
durably, with the login information `L` of each, and no fault on the listing; and a caller that
the policy authorizes for it. A list `S` of the users in listing order (later creation first,
then smaller id) exists when their ids are distinct. For every such `S` and every raw limit and
offset, the answer is the rows of `S` after the offset and up to the limit, each user joined with
its login information: the limit counts when it is positive, the configured default page size
otherwise, and the offset counts when it is positive, zero otherwise. So the answer depends on
the set of users and not on the order the store keeps them in, and pages of any positive size at
the offsets `0, lim, 2 * lim, …` list `S` once through. The command line computes the same
window, with the configuration's default size, over the durable directory of its data
directory. -/
theorem users_listing_window (w : World) (U : List User) (L : String → Option LoginInfo)
    (hlists : w.stores.Lists U L) (hclear : w.faults.modeOf? .listUsers = none) (id : SessionId)
    (pr : Access.Principal) (w₁ : World)
    (hauth : (w.services.rbac.policy.authorize id .listUsers).run [] w = .ok (.ok pr) w₁) :
    ((U.map User.id).Nodup → ∃ S : List User, S.Perm U ∧ S.Pairwise User.ListedBefore) ∧
    (∀ S : List User, S.Perm U → S.Pairwise User.ListedBefore →
      let row := fun u : User => AdminUser.compose u (L u.id)
      (∀ limit offset : Option Int,
        (w.services.rbac.listUsers id limit offset).run [] w =
          .ok (.ok (((S.drop (((offset.filter (0 < ·)).map Int.toNat).getD 0)).take
            (((limit.filter (0 < ·)).map Int.toNat).getD w.settings.defaultPageSize)).map row)) w₁) ∧
      ∀ lim k : Nat, 0 < lim → S.length ≤ k * lim →
        ∃ pages : Nat → List AdminUser,
          (∀ i : Nat, (w.services.rbac.listUsers id (some lim) (some ((i * lim : Nat) : Int))).run [] w =
            .ok (.ok (pages i)) w₁) ∧
          (List.range k).flatMap pages = S.map row) ∧
    ∀ (env : String → Option String) (fs fs' : Files) (c : Config) (d : DurableUsers) (U' : List User)
      (L' : String → Option LoginInfo) (S' : List User),
      DurableUsers.openIn fs (Config.dataDirIn env c) = .ok (fs', d) → d.allUsers = .ok U' →
      (∀ u ∈ U', d.loginOf? u.id = .ok (L' u.id)) → S'.Perm U' → S'.Pairwise User.ListedBefore →
      ∀ limit offset : Option Int,
        Cli.runUsers env fs c (.listUsers limit offset) =
          .printed (Cli.userTable (((S'.drop (((offset.filter (0 < ·)).map Int.toNat).getD 0)).take
            (((limit.filter (0 < ·)).map Int.toNat).getD c.defaultPageSize)).map
              fun u => AdminUser.compose u (L' u.id))) := by
  refine ⟨fun hnd => ⟨_, List.mergeSort_perm U _, listed_sortNewestFirst hnd⟩, fun S hp hS => ?_,
    fun env fs fs' c d U' L' S' hopen hall hlogin hp' hS' limit offset => ?_⟩
  · -- the authorization left the directory as it was, so every answer is its window of `S`
    have hlists₁ := Access.lists_of_authorize_gated (by decide) hauth hlists
    have hanswer : ∀ limit offset : Option Int, (w.services.rbac.listUsers id limit offset).run [] w =
        .ok (.ok ((Page.window (w.settings.page limit offset) S).map fun u => AdminUser.compose u (L u.id))) w₁ := by
      intro limit offset
      rw [Access.listUsers_of_authorized hclear hauth, Stores.listing_eq_window hlists₁ _ hp hS]
      rfl
    refine ⟨fun limit offset => ?_, fun lim k hlim hk => ⟨_, fun i => hanswer (some lim) (some ((i * lim : Nat) : Int)), ?_⟩⟩
    · rw [hanswer, AccessSettings.page, Page.normalize_eq]
      rfl
    · -- each page is the window at its offset, and the windows together are all of `S`
      have hpage : ∀ i : Nat, Page.window (w.settings.page (some lim) (some ((i * lim : Nat) : Int))) S =
          Page.window ⟨lim, i * lim⟩ S := by
        intro i
        rw [AccessSettings.page, Page.normalize_eq, getD_filter_natCast (.inl hlim),
          getD_filter_natCast ((Nat.eq_zero_or_pos (i * lim)).symm.imp_right Eq.symm)]
      simp only [hpage]
      rw [← List.map_flatMap, Page.flatMap_window_range, List.take_of_length_le hk]
  · rw [Cli.runUsers_listUsers hopen (DurableUsers.listUsers_eq_window hall hlogin _ hp' hS'), AccessSettings.page,
      Page.normalize_eq]
    rfl

/-- A super administrator lists a directory of one user with a raw request that gives neither a
limit nor an offset: the directory lists that user, no fault is set, the caller is authorized,
and the answer is the user's row. -/
theorem users_listing_window_of_root :
    let root : User := ⟨"root", "", .superAdmin, ⟨1767225600, 0⟩, ⟨1767225600, 0⟩⟩
    let us : MemoryUsers := ⟨[root], []⟩
    let w : World := { Setup.world ⟨.memory, AccessSettings.default, "", IdentityFake.defaultReply, .absent, "tok"⟩ with
      stores := .memory ⟨[("root-session", ⟨⟨"root", TokenPair.empty⟩, 3600000000000⟩)]⟩ us }
    w.stores.Lists us.users us.loginOf? ∧ w.faults.modeOf? .listUsers = none ∧
      (w.services.rbac.policy.authorize ⟨"root-session"⟩ .listUsers).run [] w =
        .ok (.ok ⟨"root", some .superAdmin⟩) w ∧
      (w.services.rbac.listUsers ⟨"root-session"⟩ none none).run [] w =
        .ok (.ok [AdminUser.compose root none]) w := by
  intro root us w
  have hlists : w.stores.Lists us.users us.loginOf? := ⟨rfl, fun _ _ => rfl⟩
  exact ⟨hlists, rfl, rfl,
    ((users_listing_window w us.users us.loginOf? hlists rfl _ _ _ rfl).2.1 [root] (List.Perm.refl _)
      (List.pairwise_singleton _ _)).1 none none⟩

end Warden
