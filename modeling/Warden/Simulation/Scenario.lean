import Warden.Access.Gateway
import Warden.Access.Login
import Warden.Access.Profiles
import Warden.Simulation.Report
import Warden.Simulation.World

/-!
# Scenarios

A scenario builds a world and runs steps in it, one after the other. A step either goes
through the access services, which reach the stores and services behind the injected faults,
or acts directly on a store or on the simulation itself. Every step answers a result, and,
when asked for, a snapshot of the world after it.

## Session labels

Session ids are unguessable, so a scenario refers to the sessions it created by label: the
n-th distinct session id created (by a sign-in, a direct session, or a raw session record) is
`$n`; an id created again keeps its label. A step's session is looked up as a label first and
otherwise taken as the id itself.

## Snapshots

A snapshot shows the users (listed through the directory, joined with each one's profile,
ordered by id), the sessions (a count in memory, the sorted keys of the durable tree with
every labelled id in them shown as its label, or the store's diagnostic text when it has a database of its own), how often the
uid reader was asked, the administration backend and the last token request.
-/

namespace Warden

/-- How the stores of a scenario are laid out. -/
inductive Layout where
  /-- In memory, on the virtual clock. -/
  | memory
  /-- Durable stores sharing one database. -/
  | shared
  /-- Durable stores, each in a database of its own. -/
  | separate
  deriving DecidableEq, Repr

/-- A lifetime asked for by a step, in parts that may each be absent. -/
structure TtlRequest where
  secs : Option Nat
  millis : Option Nat
  nanos : Option Nat
  deriving DecidableEq, Repr

namespace TtlRequest

/-- No lifetime asked for. -/
def none : TtlRequest := ⟨Option.none, Option.none, Option.none⟩

/-- The lifetime asked for, or `default` when no part is given. -/
def resolve (r : TtlRequest) (default : Duration) : Duration :=
  if r.secs.isNone && r.millis.isNone && r.nanos.isNone then default
  else
    let ms := r.millis.getD 0
    Duration.ofParts (r.secs.getD 0 + ms / 1000) (1000000 * (ms % 1000) + r.nanos.getD 0)

end TtlRequest

/-- A step of a scenario. -/
inductive Step where
  | login (code state : String) (reply : Option Reply) (accessToken : Option String) (ttl : TtlRequest)
  | startOAuth (provider redirect : String)
  | logout (session : String)
  | authorize (session operation : String)
  | me (session : String)
  | updateNickname (session nickname : String)
  | listUsers (session : String) (limit offset : Option Int)
  | setUserRole (session target role : String)
  | listProviderConfigs (session : String)
  | upsertProviderConfig (session provider baseUrl apiKey : String) (timeoutSeconds : Int)
  | deleteProviderConfig (session provider : String)
  | listModels (session : String)
  | upsertModel (session provider : String) (capabilities : List String) (providerModel : String)
  | deleteModel (session id : String)
  | issueToken (session : String)
  | sessionTtl
  | debugAuth
  | stats
  | debug
  | config
  /-- Saves a session for a user directly in the store. -/
  | createSession (user : String) (id : Option String) (ttl : TtlRequest)
  | getSession (session : String)
  | ensureUser (user : String)
  | setRole (user role : String)
  | saveLoginInfo (info : LoginInfo)
  | getRole (user : String)
  | getMe (user : String)
  | repoListUsers (limit offset : Nat)
  | rawUser (id json : String)
  | rawLoginInfo (id json : String)
  | rawSession (session json : String)
  | advance (secs millis : Nat)
  | purgeExpired
  | setGateway (reply : Option Reply) (accessToken : Option String)
  | setExtractor (src : UidSource)
  | fault (target mode : String)
  /-- A step of an unknown kind. -/
  | unknown (name : String)
  /-- A step that could not be read, and why. -/
  | rejected (message : String)
  deriving Repr

/-- How a scenario starts. -/
structure Setup where
  layout : Layout
  settings : AccessSettings
  sessionPrefix : String
  reply : Reply
  uidSource : UidSource
  accessToken : String

/-- The wall clock at the start of a run: 2026-01-01T00:00:00Z. -/
def wallStart : Timestamp := ⟨1767225600, 0⟩

/-- The largest page: every user. -/
def wholeListing : Page := ⟨18446744073709551615, 0⟩

namespace Setup

/-- The world a scenario starts in. -/
def world (s : Setup) : World where
  settings := s.settings
  clock := 0
  wall := wallStart
  stores := match s.layout with
    | .memory => .memory MemorySessions.empty MemoryUsers.empty
    | .shared => .durable ⟨Tree.empty, s.sessionPrefix⟩ DurableUsers.empty false
    | .separate => .durable ⟨Tree.empty, s.sessionPrefix⟩ DurableUsers.empty true
  identity := ⟨s.reply, s.accessToken⟩
  uidSource := s.uidSource
  uidReads := 0
  admin := AdminFake.empty
  issued := none
  faults := Faults.none
  labelled := []
  idsIssued := 0

end Setup

/-- The session id a step's text names in `w`: the id of a label in use, and otherwise the text
itself. -/
def World.sessionFor (w : World) (s : String) : SessionId :=
  match s.toList with
  | '$' :: digits =>
    match Config.digitsValue digits with
    | some n => if 0 < n ∧ n ≤ w.labelled.length then ⟨w.labelled.getD (n - 1) s⟩ else ⟨s⟩
    | none => ⟨s⟩
  | _ => ⟨s⟩

namespace Sim

/-- Runs a computation from the top, with no deadline; `none` if it was cut short anyway. -/
def runTop {α : Type} (act : Sim α) (w : World) : Option α × World :=
  match (act []).run w with
  | .ok a w' => (some a, w')
  | .error _ w' => (none, w')

/-- Answers the label of a session id, giving it the next label if it has none yet. -/
def label (id : String) : Sim String := do
  let w ← world
  match w.labelled.idxOf? id with
  | some i => pure ("$" ++ toString (i + 1))
  | none =>
    set { w with labelled := w.labelled ++ [id] }
    pure ("$" ++ toString (w.labelled.length + 1))

/-- The session id a step names: a label if there is one, else the text itself. -/
def sessionOf (s : String) : Sim SessionId := do return (← world).sessionFor s

end Sim

/-- Replaces every occurrence of `pat` in a text by `rep`, left to right and without overlaps,
for a nonempty `pat`; `fuel` bounds the characters still to be read. -/
def replaceFrom (pat rep : List Char) : Nat → List Char → List Char
  | 0, s => s
  | _ + 1, [] => []
  | fuel + 1, c :: rest =>
    if pat.isPrefixOf (c :: rest) then rep ++ replaceFrom pat rep fuel ((c :: rest).drop pat.length)
    else c :: replaceFrom pat rep fuel rest

/-- Replaces every occurrence of `pat` in `s` by `rep`. The empty pattern occurs before every
character and at the end. -/
def replaceAll (s pat rep : List Char) : List Char :=
  if pat.isEmpty then rep ++ s.flatMap (fun c => c :: rep)
  else replaceFrom pat rep (s.length + 1) s

/-- A durable key with every labelled session id in it replaced by its label: the ids in
label order, each replacing all its occurrences in what the ones before left, so that an id
found inside the key prefix or inside another id is replaced there too. -/
def World.labelKey (w : World) (key : String) : String :=
  String.ofList (w.labelled.zipIdx.foldl (fun k (id, i) =>
    replaceAll k id.toList ("$" ++ toString (i + 1)).toList) key.toList)

/-! ## The services of a world -/

/-- The access services over the world's backends. -/
structure Services where
  auth : Access.AuthService Sim
  rbac : Access.RbacService Sim
  catalog : Access.CatalogService Sim
  tokens : Access.TokenGate Sim

/-- The services of a world, with the uid reader it has now. -/
def World.services (w : World) : Services :=
  let backends := worldBackends w.uidSource
  let auth : Access.AuthService Sim := ⟨backends, w.settings⟩
  let policy := auth.policy
  ⟨auth, ⟨policy, backends.users, w.settings⟩, ⟨policy, backends.catalog, w.settings⟩, ⟨policy, backends.issuer, w.settings⟩⟩

/-! ## Reports of values -/

namespace Report

/-- A principal. -/
def principal (p : Access.Principal) : Json :=
  .obj [("user_id", .str p.userId), ("role", match p.role with
    | some r => r.toJson
    | none => .null)]

/-- A user as the listing shows it, instants from the wall clock shown as recent. -/
def adminUser (a : AdminUser) : Json := a.toJsonWith stamp

/-- A list of users. -/
def adminUsers (xs : List AdminUser) : Json := .arr (xs.map adminUser)

/-- The administration backend. -/
def admin (a : AdminFake) : Json :=
  .obj [("writes", .int a.writes), ("last_api_key", .ofOption a.lastApiKey),
    ("providers", .arr (a.providerViews.map ProviderView.toJson)),
    ("models", .arr (a.models.map ModelSpec.toJson))]

/-- The last token request. -/
def issued : Option IssueRequest → Json
  | none => .null
  | some r => .obj [("subject", .str r.subject), ("ttl_seconds", .int r.ttlSeconds),
      ("allowed_model_ids", .arr (r.allowedModelIds.map .str))]

end Report

/-! ## Snapshots -/

namespace World

/-- The listing of all users, from the stores directly. -/
def allUsers (w : World) : Except StoreError (List AdminUser) :=
  match w.stores with
  | .memory _ us => .ok (us.listUsers wholeListing)
  | .durable _ us _ => us.listUsers wholeListing

/-- The profile of a user, from the stores directly. -/
def profileOf (w : World) (id : String) : Except StoreError Me :=
  match w.stores with
  | .memory _ us => us.getMe id
  | .durable _ us _ => us.getMe id

/-- The users of a snapshot. -/
def usersSnapshot (w : World) : Json :=
  match w.allUsers with
  | .error e => Report.storeError e
  | .ok users =>
    let sorted := users.mergeSort fun a b => decide (a.id ≤ b.id)
    .arr (sorted.map fun a =>
      .obj [("id", .str a.id), ("role", a.role.toJson),
        ("nickname", match w.profileOf a.id with
          | .ok m => .str m.nickname
          | .error e => Report.storeError e),
        ("email", .str a.email), ("github_id", .ofOption a.githubId),
        ("password_enabled", .bool a.passwordEnabled)])

/-- The sessions of a snapshot. -/
def sessionsSnapshot (w : World) : Json :=
  match w.stores with
  | .memory ss _ => .int ss.size
  | .durable ss _ true => .str ss.dump
  | .durable ss _ false =>
    let keys := ss.tree.keys.map w.labelKey
    .arr ((keys.mergeSort fun a b => decide (a ≤ b)).map .str)

/-- The snapshot of a world. -/
def snapshot (w : World) : Json :=
  .obj [("users", w.usersSnapshot), ("sessions", w.sessionsSnapshot),
    ("extractor_calls", .int w.uidReads), ("admin", Report.admin w.admin),
    ("issuer", Report.issued w.issued)]

/-- The world once the identity provider's reply and access token are set, where given. -/
def withGateway (w : World) (reply : Option Reply) (token : Option String) : World :=
  { w with identity := ⟨reply.getD w.identity.reply, token.getD w.identity.accessToken⟩ }

/-- The store statistics. -/
def stats (w : World) : Json :=
  match w.stores with
  | .memory ss us =>
    .obj [("users_count", .int us.count), ("sessions_len", .int ss.size),
      ("sessions_is_empty", .bool (ss.size == 0))]
  | .durable ss us _ =>
    .obj [("users_count", .int us.count), ("users_debug", .str us.dump),
      ("sessions_debug", .str ss.dump)]

end World

/-! ## Steps -/

namespace Sim

/-- Runs a service call and reports its outcome. -/
def serve {α : Type} (enc : α → Json) (call : ExceptT AccessError Sim α) : Sim Json := do
  return Report.outcome enc (← call.run)

/-- Reports a direct store call. -/
def direct {α : Type} (enc : α → Json) (call : Sim (Except StoreError α)) : Sim Json := do
  return Report.storeOutcome enc (← call)

/-- Reports `ok` with nothing. -/
def done : Sim Json := pure (Report.ok .null)

/-- Whether the stores are in memory, on the virtual clock. -/
def virtualClock : Sim Bool := do
  match (← world).stores with
  | .memory _ _ => pure true
  | .durable _ _ _ => pure false

/-- Sets the identity provider's reply and access token, where given. -/
def setGateway (reply : Option Reply) (token : Option String) : Sim Unit :=
  change (·.withGateway reply token)

/-- A step through the access services with a session. -/
def withServices (f : Services → Sim Json) : Sim Json := do f (← world).services

/-- Runs one step. -/
def step : Step → Sim Json
  | .login code state reply token ttl => do
    setGateway reply token
    let svc := (← world).services
    let r ← (svc.auth.completeOAuthToSession code state (ttl.resolve svc.auth.sessionTtl)).run
    match r with
    | .ok c =>
      let l ← label c.sessionId.text
      pure (Report.ok (.obj [("session", .str l), ("user_id", .str c.userId),
        ("session_id_len", .int c.sessionId.text.utf8ByteSize)]))
    | .error e => pure (Report.error e)
  | .startOAuth provider redirect => withServices fun svc =>
    serve (fun u => .obj [("url", .str u.url), ("state", .str u.state)]) (svc.auth.startOAuth provider redirect)
  | .logout s => withServices fun svc => do
    serve (fun _ => .null) (svc.auth.logout (← sessionOf s))
  | .authorize s op => withServices fun svc => do
    let sid ← sessionOf s
    match Operation.ofName? op with
    | some o => serve Report.principal (svc.auth.policy.authorize sid o)
    | none => pure (Report.badInput ("unknown operation `" ++ op ++ "`"))
  | .me s => withServices fun svc => do serve Me.toJson (svc.rbac.me (← sessionOf s))
  | .updateNickname s nick => withServices fun svc => do
    serve Me.toJson (svc.rbac.updateNickname (← sessionOf s) nick)
  | .listUsers s limit offset => withServices fun svc => do
    serve Report.adminUsers (svc.rbac.listUsers (← sessionOf s) limit offset)
  | .setUserRole s target role => withServices fun svc => do
    let sid ← sessionOf s
    match Role.parse? role with
    | some r => serve (fun _ => .null) (svc.rbac.setUserRole sid target r)
    | none => pure (Report.outcome (fun _ => .null) (parseAssignableRole role))
  | .listProviderConfigs s => withServices fun svc => do
    serve (fun vs => .arr (vs.map ProviderView.toJson)) (svc.catalog.listProviderConfigs (← sessionOf s))
  | .upsertProviderConfig s provider baseUrl apiKey timeout => withServices fun svc => do
    let sid ← sessionOf s
    match parseProvider provider with
    | .error e => pure (Report.error e)
    | .ok p => serve (fun _ => .null) (svc.catalog.upsertProviderConfig sid ⟨p, baseUrl, ⟨apiKey⟩, timeout⟩)
  | .deleteProviderConfig s provider => withServices fun svc => do
    let sid ← sessionOf s
    match parseProvider provider with
    | .error e => pure (Report.error e)
    | .ok p => serve (fun _ => .null) (svc.catalog.deleteProviderConfig sid p)
  | .listModels s => withServices fun svc => do
    serve (fun ms => .arr (ms.map ModelSpec.toJson)) (svc.catalog.listModels (← sessionOf s))
  | .upsertModel s provider caps providerModel => withServices fun svc => do
    let sid ← sessionOf s
    match parseProvider provider, parseCapabilities caps with
    | .error e, _ => pure (Report.error e)
    | .ok _, .error e => pure (Report.error e)
    | .ok p, .ok cs => serve .str (svc.catalog.upsertModel sid ⟨p, cs, providerModel⟩)
  | .deleteModel s id => withServices fun svc => do
    serve (fun _ => .null) (svc.catalog.deleteModel (← sessionOf s) id)
  | .issueToken s => withServices fun svc => do
    serve (fun t => .obj [("token", .str t.token), ("expires_at_unix", .int t.expiresAtUnix)])
      (svc.tokens.issueToken (← sessionOf s))
  | .sessionTtl => withServices fun svc => pure (Report.ok (Report.duration svc.auth.sessionTtl))
  | .debugAuth => withServices fun svc => pure (Report.ok (.str svc.auth.dump))
  | .stats => do pure (Report.ok (← world).stats)
  | .debug => withServices fun svc =>
    pure (Report.ok (.obj [("policy", .str svc.auth.policy.dump), ("rbac", .str svc.rbac.dump),
      ("llm", .str svc.catalog.dump), ("tokens", .str svc.tokens.dump)]))
  | .config => do pure (Report.ok (Report.settings (← world).settings))
  | .createSession user id ttl => do
    let sid ← match id with
      | some i => pure (⟨i⟩ : SessionId)
      | none => freshSessionId
    match ← saveSession sid ⟨user, TokenPair.empty⟩ (ttl.resolve (Duration.ofSecs 3600)) with
    | .ok () => return Report.ok (.str (← label sid.text))
    | .error e => pure (Report.storeError e)
  | .getSession s => do direct Session.toJson (getSession (← sessionOf s))
  | .ensureUser u => direct (fun _ => .null) (ensureUser u)
  | .setRole u role =>
    match Role.parse? role with
    | some r => direct (fun _ => .null) (setRole u r)
    | none => pure (Report.badInput ("unknown role `" ++ role ++ "`"))
  | .saveLoginInfo info => direct (fun _ => .null) (saveLoginInfo info)
  | .getRole u => direct Role.toJson (getRole u)
  | .getMe u => direct Me.toJson (getMe u)
  | .repoListUsers limit offset => direct Report.adminUsers (listUsers ⟨limit, offset⟩)
  | .rawUser id json => do
    match (← world).stores with
    | .durable ss us sep =>
      change ({ · with stores := .durable ss { us with users := us.users.insert id json } sep }); done
    | .memory _ _ => pure (Report.badInput "raw_user needs the sled store")
  | .rawLoginInfo id json => do
    match (← world).stores with
    | .durable ss us sep =>
      change ({ · with stores := .durable ss { us with logins := us.logins.insert id json } sep }); done
    | .memory _ _ => pure (Report.badInput "raw_login_info needs the sled store")
  | .rawSession s json => do
    match (← world).stores with
    | .durable ss us false =>
      let sid ← sessionOf s
      change ({ · with stores := .durable { ss with tree := ss.tree.insert (ss.key sid.text) json } us false })
      let _ ← label sid.text
      done
    | _ => pure (Report.badInput "raw_session needs the sled store")
  | .advance secs millis => do
    if ← virtualClock then
      change fun w => { w with clock := w.clock + (Duration.ofParts secs (1000000 * millis)).toNanos }
      done
    else pure (Report.badInput "advance needs the memory store")
  | .purgeExpired => do
    let w ← world
    match w.stores with
    | .memory ss us =>
      let (n, ss') := ss.purgeExpired w.clock
      set { w with stores := .memory ss' us }
      pure (Report.ok (.int n))
    | .durable _ _ _ => pure (Report.badInput "purge_expired needs the memory store")
  | .setGateway reply token => do setGateway reply token; done
  | .setExtractor src => do change ({ · with uidSource := src }); done
  | .fault target mode => do
    match FaultChange.parse target mode (← virtualClock) with
    | .ok c => change (fun w => { w with faults := w.faults.apply c }); done
    | .error m => pure (Report.badInput m)
  | .unknown name => pure (Report.badInput ("unknown step `" ++ name ++ "`"))
  | .rejected message => pure (Report.badInput message)

end Sim

/-- Runs the steps of a scenario from its setup: each step's result, and the snapshot after it
when `withState`. -/
def runScenario (setup : Setup) (steps : List Step) (withState : Bool) : Json :=
  let go : World × List Json → Step → World × List Json := fun (w, acc) st =>
    let (r, w') := Sim.runTop (Sim.step st) w
    let result := r.getD (Report.badInput "interrupted")
    let entry := if withState then Json.obj [("result", result), ("state", w'.snapshot)]
      else Json.obj [("result", result)]
    (w', entry :: acc)
  let (_, entries) := steps.foldl go (setup.world, [])
  .obj [("steps", .arr entries.reverse)]

end Warden
