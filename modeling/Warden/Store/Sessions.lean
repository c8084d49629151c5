import Warden.Access.Error
import Warden.Account.Session
import Warden.Store.Tree
import Warden.Text.Quoted

/-!
# Session stores

Two session stores: one in memory, on the virtual monotonic clock of the process, and one in a
durable tree, on the wall clock.

## Expiry

A session saved for a lifetime `ttl` at instant `t` expires at `t + ttl` and is live while
`expiresAt > now`. An expired session is not handed out; it is dropped when it is read, or,
in memory, by a purge. Until then it still counts as an entry.

## Lifetimes out of range

The expiry instant must be representable. On the monotonic clock an instant is a signed 64-bit
count of seconds from an origin some way before the process started; in the durable store the
lifetime must fit a signed 64-bit count of milliseconds and the expiry must be a date the
calendar can hold. A lifetime beyond either bound is refused with a backend error naming it.

## The durable record

The durable store keeps `{"session": …, "expires_at": …}` under the key `prefix ++ id`, the
expiry in RFC 3339. A record that does not decode is a serialization error.
-/

namespace Warden

/-- The seconds of the monotonic clock that had passed when the virtual clock started. -/
def monotonicOrigin : Nat := 100000

/-- The largest signed 64-bit integer. -/
def i64Max : Nat := 9223372036854775807

/-- The refusal of a lifetime whose expiry cannot be represented. -/
def ttlOutOfRange (ttl : Duration) : StoreError :=
  .backend ("Session TTL out of range: " ++ ttl.text)

/-! ## In memory -/

/-- A session held in memory and the virtual instant, in nanoseconds, at which it expires. -/
structure HeldSession where
  session : Session
  expiresAt : Nat
  deriving DecidableEq, Repr

/-- The in-memory session store: sessions by id, each id once. -/
structure MemorySessions where
  entries : List (String × HeldSession)
  deriving DecidableEq, Repr

namespace MemorySessions

/-- The empty store. -/
def empty : MemorySessions := ⟨[]⟩

/-- The number of entries, expired ones included. -/
def size (s : MemorySessions) : Nat := s.entries.length

/-- The store without an id. -/
def erase (s : MemorySessions) (id : String) : MemorySessions := ⟨s.entries.filter (·.1 != id)⟩

/-- The expiry of a lifetime started at `now`, when the monotonic clock can hold it. -/
def expiry? (now : Nat) (ttl : Duration) : Option Nat :=
  let at_ := now + ttl.toNanos
  if monotonicOrigin + at_ / 1000000000 > i64Max then none else some at_

/-- Saves a session for a lifetime from `now`, replacing any session under the same id. -/
def save (s : MemorySessions) (id : String) (session : Session) (ttl : Duration) (now : Nat) :
    Except StoreError MemorySessions :=
  match expiry? now ttl with
  | none => .error (ttlOutOfRange ttl)
  | some at_ => .ok ⟨(id, ⟨session, at_⟩) :: (s.erase id).entries⟩

/-- The live session under an id; an expired one is dropped. -/
def get (s : MemorySessions) (id : String) (now : Nat) : Except StoreError Session × MemorySessions :=
  match s.entries.lookup id with
  | none => (.error .notFound, s)
  | some h => if h.expiresAt > now then (.ok h.session, s) else (.error .notFound, s.erase id)

/-- Drops every expired session and answers how many there were. -/
def purgeExpired (s : MemorySessions) (now : Nat) : Nat × MemorySessions :=
  let kept := s.entries.filter (·.2.expiresAt > now)
  (s.entries.length - kept.length, ⟨kept⟩)

end MemorySessions

/-! ## Durable -/

/-- The most whole seconds a lifetime may have to fit signed 64-bit milliseconds. -/
def maxDeltaSecs : Nat := i64Max / 1000

/-- The wall-clock expiry of a lifetime started at `now`, when the calendar can hold it. -/
def Timestamp.after? (now : Timestamp) (ttl : Duration) : Option Timestamp :=
  if ttl.secs > maxDeltaSecs ∨ (ttl.secs = maxDeltaSecs ∧ ttl.nanos > (i64Max % 1000) * 1000000) then none
  else
    let n := now.nanos + ttl.nanos
    let secs := now.secs + ttl.secs + (n / 1000000000 : Nat)
    if secs > Timestamp.maxSecs then none else some ⟨secs, n % 1000000000⟩

/-- What the durable store keeps for a session. -/
structure StoredSession where
  session : Session
  expiresAt : Timestamp
  deriving DecidableEq, Repr

namespace StoredSession

/-- The JSON form. -/
def toJson (r : StoredSession) : Json :=
  .obj [("session", r.session.toJson), ("expires_at", .str r.expiresAt.rfc3339)]

/-- The JSON record. -/
def shape : Json.Shape StoredSession where
  name := "StoredSession"
  fields := [
    ⟨"session", .required, fun r => do return { r with session := ← Session.shape.read }⟩,
    ⟨"expires_at", .required, fun r => do return { r with expiresAt := ← Json.readTimestamp }⟩]
  init := ⟨⟨"", TokenPair.empty⟩, ⟨0, 0⟩⟩

end StoredSession

/-- Decodes a stored record, a failure being a serialization error. -/
def decodeRecord {α : Type} (r : Json.Reader α) (text : String) : Except StoreError α :=
  match Json.readText r text with
  | .ok v => .ok v
  | .error e => .error (.serialization e.message)

/-- The durable session store: one tree, and the prefix of its keys. -/
structure DurableSessions where
  tree : Tree
  keyPrefix : String
  deriving DecidableEq, Repr

namespace DurableSessions

/-- The key of a session id. -/
def key (s : DurableSessions) (id : String) : String := s.keyPrefix ++ id

/-- The diagnostic text: the prefix and the number of entries. -/
def dump (s : DurableSessions) : String :=
  "SledSessionStore \x7b prefix: " ++ Text.quoted s.keyPrefix ++ ", entries: " ++ toString s.tree.size ++ " \x7d"

/-- Saves a session for a lifetime from the wall-clock instant `now`. -/
def save (s : DurableSessions) (id : String) (session : Session) (ttl : Duration) (now : Timestamp) :
    Except StoreError DurableSessions :=
  match now.after? ttl with
  | none => .error (ttlOutOfRange ttl)
  | some at_ => .ok { s with tree := s.tree.insert (s.key id) (StoredSession.toJson ⟨session, at_⟩).compact }

/-- The live session under an id at the wall-clock instant `now`; an expired one is dropped. -/
def get (s : DurableSessions) (id : String) (now : Timestamp) : Except StoreError Session × DurableSessions :=
  match s.tree.find? (s.key id) with
  | none => (.error .notFound, s)
  | some text =>
    match decodeRecord StoredSession.shape.read text with
    | .error e => (.error e, s)
    | .ok r =>
      if now.lt r.expiresAt then (.ok r.session, s)
      else (.error .notFound, { s with tree := s.tree.erase (s.key id) })

/-- Forgets the session under an id. -/
def delete (s : DurableSessions) (id : String) : DurableSessions :=
  { s with tree := s.tree.erase (s.key id) }

end DurableSessions

end Warden
