import Warden.Access.Backends
import Warden.Access.Settings
import Warden.Simulation.Faults
import Warden.Simulation.Fakes
import Warden.Store.Users

/-!
# A simulated world

The stores, the simulated services, the injected faults and two clocks, and the monad `Sim`
in which the access services run against them.

## The clocks

The virtual clock counts nanoseconds from the start of the run. It moves only when a step
advances it or when a computation sleeps; nothing else takes time. The in-memory session store
expires sessions on it. The wall clock gives creation and modification instants and the
durable session store's expiries; each reading is one microsecond after the last, so every
reading is distinct and the order of readings is the order of events.

## Timers

The scheduler's timers fire on millisecond ticks, counted from the start of the run: a timer set
for an instant fires on the first tick at or after it (`tickOf`). While every task waits, the
paused clock jumps to the tick of the next timer, moving by whole milliseconds from the tick it
stands in (`clockAt`), so it lands on that tick when it stood on one.

## Deadlines

A computation runs under a stack of deadlines, outermost first, one for each enclosing
`within`. When it sleeps, the sleep is cut short if a deadline's tick comes strictly before the
tick of the wake instant: the clock moves to the first such tick, and the computation stops there
with the level of that deadline, which its own `within` turns into `none`. On a tie between
deadlines the innermost falls, because an enclosing bound only looks at its timer after its body
has had its turn; on a tie between a deadline and the wake the sleep ends first for the same
reason. What the computation did before it stopped stays done.

## Invariant

The virtual clock never moves backwards: a sleep moves it on to the tick of the wake or of a
deadline, and a deadline whose tick has already passed falls at once without moving it.
-/

namespace Warden

/-- The stores of a world. -/
inductive Stores where
  /-- In memory, on the virtual clock. -/
  | memory (sessions : MemorySessions) (users : MemoryUsers)
  /-- Durable, on the wall clock: in one database, or each in its own (`separate`). -/
  | durable (sessions : DurableSessions) (users : DurableUsers) (separate : Bool)
  deriving DecidableEq, Repr

/-- A simulated world. -/
structure World where
  settings : AccessSettings
  clock : Nat
  wall : Timestamp
  stores : Stores
  identity : IdentityFake
  uidSource : UidSource
  uidReads : Nat
  admin : AdminFake
  issued : Option IssueRequest
  faults : Faults
  /-- The session ids that have labels, in label order. -/
  labelled : List String
  /-- How many session ids have been handed out. -/
  idsIssued : Nat

/-- The level of the deadline that fell. -/
structure Fallen where
  level : Nat
  deriving DecidableEq, Repr

/-- A computation in a simulated world, under a stack of deadlines on the virtual clock. -/
abbrev Sim := ReaderT (List Nat) (EStateM Fallen World)

/-- How long a hang sleeps: an hour. -/
def hangTime : Duration := Duration.ofSecs 3600

/-- The millisecond tick on which a timer set for the virtual instant `t` fires: the first tick
at or after it. -/
def tickOf (t : Nat) : Nat := t / 1000000 + if t % 1000000 = 0 then 0 else 1

/-- The virtual clock once the scheduler has moved it on to the tick `k`: by whole milliseconds
from the tick it stands in, and not at all when `k` has passed. -/
def clockAt (clock k : Nat) : Nat := clock + 1000000 * (k - clock / 1000000)

/-- The deadline that falls first, on a tick before the tick of the instant `wake`, innermost on
ties: its level and its tick. -/
def firstToFall (deadlines : List Nat) (wake : Nat) : Option (Nat × Nat) :=
  let pick : Option (Nat × Nat) → Nat × Nat → Option (Nat × Nat) := fun best (d, i) =>
    match best with
    | some (j, k) => if tickOf d ≤ k then some (i, tickOf d) else some (j, k)
    | none => some (i, tickOf d)
  match (deadlines.zipIdx).foldl pick none with
  | some (i, k) => if k < tickOf wake then some (i, k) else none
  | none => none

namespace Sim

/-- The world. -/
def world : Sim World := get

/-- Changes the world. -/
def change (f : World → World) : Sim Unit := modify f

/-- Sleeps for a duration, unless a deadline falls first. -/
def sleep (d : Duration) : Sim Unit := fun deadlines => do
  let w ← get
  let wake := w.clock + d.toNanos
  match firstToFall deadlines wake with
  | none => set { w with clock := clockAt w.clock (tickOf wake) }
  | some (level, k) =>
    set { w with clock := clockAt w.clock k }
    throw ⟨level⟩

/-- Runs a computation under a deadline `d` from now. -/
def within {α : Type} (d : Duration) (act : Sim α) : Sim (Option α) := fun deadlines => do
  let w ← get
  let level := deadlines.length
  tryCatch (some <$> act (deadlines ++ [w.clock + d.toNanos])) fun f =>
    if f.level = level then pure none else throw f

/-- Reads the wall clock; the next reading is a microsecond later. -/
def wallNow : Sim Timestamp := do
  let w ← get
  let t := w.wall
  let n := t.nanos + 1000
  set { w with wall := ⟨t.secs + (n / 1000000000 : Nat), n % 1000000000⟩ }
  pure t

/-- A fresh session id of 43 characters, distinct from every id handed out before. -/
def freshSessionId : Sim SessionId := do
  let w ← get
  set { w with idsIssued := w.idsIssued + 1 }
  let digits := Nat.toDigits 10 (w.idsIssued + 1)
  pure ⟨String.ofList (List.replicate (43 - digits.length) 'A' ++ digits)⟩

end Sim

instance : MonadDeadline Sim where
  within := Sim.within

/-! ## The stores, without faults -/

namespace Sim

/-- Saves a session. -/
def saveSession (id : SessionId) (s : Session) (ttl : Duration) : Sim (Except StoreError Unit) := do
  let w ← world
  match w.stores with
  | .memory ss us =>
    match ss.save id.text s ttl w.clock with
    | .ok ss' => change ({ · with stores := .memory ss' us }); pure (.ok ())
    | .error e => pure (.error e)
  | .durable ss us sep =>
    let now ← wallNow
    match ss.save id.text s ttl now with
    | .ok ss' => change ({ · with stores := .durable ss' us sep }); pure (.ok ())
    | .error e => pure (.error e)

/-- The live session under an id. -/
def getSession (id : SessionId) : Sim (Except StoreError Session) := do
  let w ← world
  match w.stores with
  | .memory ss us =>
    let (r, ss') := ss.get id.text w.clock
    change ({ · with stores := .memory ss' us })
    pure r
  | .durable ss us sep =>
    let now ← wallNow
    let (r, ss') := ss.get id.text now
    change ({ · with stores := .durable ss' us sep })
    pure r

/-- Forgets a session. -/
def deleteSession (id : SessionId) : Sim (Except StoreError Unit) := do
  match (← world).stores with
  | .memory ss us => change ({ · with stores := .memory (ss.erase id.text) us })
  | .durable ss us sep => change ({ · with stores := .durable (ss.delete id.text) us sep })
  pure (.ok ())

/-- Creates a user unless it exists. -/
def ensureUser (id : String) : Sim (Except StoreError Unit) := do
  let now ← wallNow
  match (← world).stores with
  | .memory ss us => change ({ · with stores := .memory ss (us.ensureExists id now) })
  | .durable ss us sep => change ({ · with stores := .durable ss (us.ensureExists id now) sep })
  pure (.ok ())

/-- Keeps login information. -/
def saveLoginInfo (info : LoginInfo) : Sim (Except StoreError Unit) := do
  match (← world).stores with
  | .memory ss us => change ({ · with stores := .memory ss (us.saveLoginInfo info) })
  | .durable ss us sep => change ({ · with stores := .durable ss (us.saveLoginInfo info) sep })
  pure (.ok ())

/-- The role of a user. -/
def getRole (id : String) : Sim (Except StoreError Role) := do
  match (← world).stores with
  | .memory _ us => pure (us.getRole id)
  | .durable _ us _ => pure (us.getRole id)

/-- Changes a user, created if missing. -/
def modifyUser (id : String) (f : User → User) : Sim (Except StoreError Unit) := do
  let now ← wallNow
  match (← world).stores with
  | .memory ss us => change ({ · with stores := .memory ss (us.modify id f now) }); pure (.ok ())
  | .durable ss us sep =>
    match us.modify id f now with
    | .ok us' => change ({ · with stores := .durable ss us' sep }); pure (.ok ())
    | .error e => pure (.error e)

/-- Sets the role of a user. -/
def setRole (id : String) (r : Role) : Sim (Except StoreError Unit) :=
  modifyUser id fun u => { u with role := r }

/-- Sets the nickname of a user. -/
def setNickname (id : String) (nick : String) : Sim (Except StoreError Unit) :=
  modifyUser id fun u => { u with nickname := nick }

/-- A page of the users. -/
def listUsers (p : Page) : Sim (Except StoreError (List AdminUser)) := do
  match (← world).stores with
  | .memory _ us => pure (.ok (us.listUsers p))
  | .durable _ us _ => pure (us.listUsers p)

/-- The profile of a user. -/
def getMe (id : String) : Sim (Except StoreError Me) := do
  match (← world).stores with
  | .memory _ us => pure (us.getMe id)
  | .durable _ us _ => pure (us.getMe id)

/-! ## Faults -/

/-- Runs a store call unless a fault is set on it: a hang sleeps first and then fails as a
backend that hung. -/
def storeCall {α : Type} (t : Target) (call : Sim (Except StoreError α)) : Sim (Except StoreError α) := do
  match (← world).faults.modeOf? t with
  | none => call
  | some .hang => do sleep hangTime; pure (.error (.backend "hung"))
  | some m => pure (.error m.storeError)

/-- Runs a service call unless a fault is set on it: a hang sleeps first and then fails as a
service that hung. -/
def serviceCall {α : Type} (t : Target) (call : Sim (Except GatewayError α)) : Sim (Except GatewayError α) := do
  match (← world).faults.modeOf? t with
  | none => call
  | some .hang => do sleep hangTime; pure (.error (.unavailable "hung"))
  | some m => pure (.error m.gatewayError)

/-! ## The simulated services -/

/-- The identity provider's answer about the holder of a token. -/
def loginInfo : Sim (Except GatewayError LoginInfo) := do
  let r := (← world).identity.reply
  if r = .hang then sleep hangTime
  pure (IdentityFake.replyAnswer r)

/-- The uid reader, counting its readings. -/
def readUid (token : String) : Sim (Except ExtractError String) := do
  let w ← world
  set { w with uidReads := w.uidReads + 1 }
  pure (w.uidSource.read token)

/-- Changes the administration backend and answers `ok`. -/
def adminWrite {α : Type} (f : AdminFake → AdminFake) (answer : α) : Sim (Except GatewayError α) := do
  change fun w => { w with admin := f w.admin }
  pure (.ok answer)

/-- Answers a token request and remembers it. -/
def issue (subject : String) (ttl : Int) (models : List String) : Sim (Except GatewayError IssuedToken) := do
  let r : IssueRequest := ⟨subject, ttl, models⟩
  change fun w => { w with issued := some r }
  pure (.ok r.answer)

end Sim

/-- The backends of the world, behind the injected faults; a uid reader is wired as `src` says. -/
def worldBackends (src : UidSource) : Backends Sim where
  sessions := {
    save := fun id s ttl => Sim.storeCall .sessionSave (Sim.saveSession id s ttl)
    get := fun id => Sim.storeCall .sessionGet (Sim.getSession id)
    delete := fun id => Sim.storeCall .sessionDelete (Sim.deleteSession id) }
  users := {
    ensureExists := fun id => Sim.storeCall .ensureExists (Sim.ensureUser id)
    saveLoginInfo := fun i => Sim.storeCall .saveLoginInfo (Sim.saveLoginInfo i)
    getRole := fun id => Sim.storeCall .getRole (Sim.getRole id)
    setRole := fun id r => Sim.storeCall .setRole (Sim.setRole id r)
    listUsers := fun p => Sim.storeCall .listUsers (Sim.listUsers p)
    getMe := fun id => Sim.storeCall .getMe (Sim.getMe id)
    setNickname := fun id n => Sim.storeCall .setNickname (Sim.setNickname id n) }
  identity := {
    authorizationUrl := fun p r => Sim.serviceCall .authorizationUrl (pure (IdentityFake.authorizationUrl p r))
    loginByOAuth := fun code _ => Sim.serviceCall .loginByOAuth do
      return (← Sim.world).identity.loginByOAuth code
    loginInfo := fun _ => Sim.serviceCall .loginInfo Sim.loginInfo }
  uidReader := if src.wired then some Sim.readUid else none
  catalog := {
    upsertProvider := fun c => Sim.serviceCall .upsertProvider (Sim.adminWrite (·.upsertProvider c) ())
    deleteProvider := fun p => Sim.serviceCall .deleteProvider (Sim.adminWrite (·.deleteProvider p) ())
    listProviders := Sim.serviceCall .listProviders do return .ok (← Sim.world).admin.providerViews
    upsertModel := fun m => Sim.serviceCall .upsertModel
      (Sim.adminWrite (·.upsertModel m) (ModelSpec.ofConfig m).id)
    deleteModel := fun id => Sim.serviceCall .deleteModel (Sim.adminWrite (·.deleteModel id) ())
    listModels := Sim.serviceCall .listModels do return .ok (← Sim.world).admin.models }
  issuer := { issue := fun s ttl ms => Sim.serviceCall .issueToken (Sim.issue s ttl ms) }
  freshSessionId := Sim.freshSessionId

end Warden
