import Jukebox.Session
import Jukebox.VoteDesk

/-!
The sessions of all guilds.

A guild's session sits in a slot that is made on first use. Tearing a slot down cancels the
guild's votes, releases the session and takes the slot out of the table for good: whoever still
holds a reference to it finds it torn down, and the guild's next session gets a fresh slot.
-/

namespace Jukebox

/-- A reference to a slot: its guild and its place among all slots that were made. -/
structure SlotRef where
  guild : GuildId
  serial : Nat
deriving DecidableEq, Repr

structure Slot where
  ref : SlotRef
  session : Session
deriving DecidableEq, Repr

structure Registry where
  live : Table GuildId Slot := .empty
  /-- The slots that were torn down, the latest first. -/
  retired : List Slot := []
  created : Nat := 0
  desk : VoteDesk := {}
  backend : Backend

namespace Registry

def metrics (r : Registry) : Metrics := r.desk.metrics

def count (r : Registry) (f : Metrics → Metrics) : Registry :=
  { r with desk := { r.desk with metrics := f r.desk.metrics } }

/-- The guilds that have a session, in ascending order. -/
def guilds (r : Registry) : List GuildId := r.live.keys

def session? (r : Registry) (guild : GuildId) : Option Session :=
  (r.live.get? guild).map (·.session)

def isTornDown (r : Registry) (ref : SlotRef) : Bool := r.retired.any fun s => s.ref = ref

/-- The slot that a reference leads to, unless it was torn down. -/
def slot? (r : Registry) (ref : SlotRef) : Option Slot :=
  (r.live.get? ref.guild).filter fun s => s.ref = ref

/-- The slot of a guild, made on first use. -/
def getOrCreate (r : Registry) (now : Nat) (guild : GuildId) : Slot × Registry :=
  match r.live.get? guild with
  | some slot => (slot, r)
  | none =>
    let slot := { ref := ⟨guild, r.created⟩, session := .create guild now }
    (slot,
      { r with live := r.live.insert guild slot, created := r.created + 1 }.count
        Metrics.sessionCreated)

def putBack (r : Registry) (slot : Slot) (session : Session) : Registry :=
  { r with live := r.live.insert slot.ref.guild { slot with session } }

/-- Carries an outcome over: the session goes back into its slot, the calls to the backend. -/
def commit {α : Type} (r : Registry) (slot : Slot) (o : Outcome α) : Registry :=
  { r.putBack slot o.session with backend := r.backend.record o.signals.calls }

/-- Runs an operation on the session in a slot. -/
def act {α : Type} (r : Registry) (now : Nat) (slot : Slot)
    (operation : Backend → Nat → Session → Outcome α) : α × Registry :=
  let o := operation r.backend now slot.session
  (o.result, r.commit slot o)

/-- Gives a slot up: cancels the guild's votes, releases the session, and retires the slot. -/
def tearDown (r : Registry) (slot : Slot) : Registry :=
  let released := slot.session.release
  { r with
    live := r.live.erase slot.ref.guild
    retired := { slot with session := released.session } :: r.retired
    desk := (r.desk.cancelAll slot.ref.guild).desk
    backend := r.backend.record released.signals.calls }.count
      fun m => m.sessionEvicted slot.session.queue.length

/-- Gives up a guild's session, whatever its state. The result says whether there was one. -/
def evict (r : Registry) (guild : GuildId) : Bool × Registry :=
  match r.live.get? guild with
  | none => (false, r)
  | some slot => (true, r.tearDown slot)

/-- Whether a guild's session has been idle for a time and no vote of the guild is pending. -/
def isIdleFor (r : Registry) (now : Nat) (slot : Slot) (threshold : Nat) : Bool :=
  match slot.session.idleFor now with
  | none => false
  | some idle => threshold ≤ idle && !r.desk.hasPending slot.ref.guild

/-- Gives up a guild's session if it has been idle for a time and no vote of the guild is
pending. -/
def evictIfIdle (r : Registry) (now : Nat) (guild : GuildId) (threshold : Nat) :
    Bool × Registry :=
  match r.live.get? guild with
  | none => (false, r)
  | some slot => if r.isIdleFor now slot threshold then (true, r.tearDown slot) else (false, r)

end Registry

inductive RegistryRequest
  | getOrCreate (guild : GuildId)
  | get (guild : GuildId)
  | lock (guild : GuildId)
  | lockOrCreate (guild : GuildId)
  | lockSlot (ref : SlotRef)
  | enqueue (guild : GuildId) (entry : Entry) (capacity : Nat)
  | skip (guild : GuildId)
  | startVote (request : VoteRequest)
  | evictIfIdle (guild : GuildId) (threshold : Nat)
  | evict (guild : GuildId)

inductive RegistryReply
  | slot (ref : SlotRef)
  | session (s : Session)
  | enqueued (e : Enqueued)
  | progress (p : VoteProgress)
  | flag (b : Bool)
  /-- There is nothing to show: no slot, a slot that was torn down, or no result. -/
  | nothing

namespace RegistryRequest

abbrev Answer := Except PlayerError RegistryReply × Registry

def answer (q : RegistryRequest) (now : Nat) (r : Registry) : Answer :=
  match q with
  | getOrCreate g => let (slot, r) := r.getOrCreate now g; (.ok (.slot slot.ref), r)
  | get g =>
    match r.live.get? g with
    | some slot => (.ok (.slot slot.ref), r)
    | none => (.ok .nothing, r)
  | lock g =>
    match r.live.get? g with
    | some slot => (.ok (.session slot.session), r)
    | none => (.error (.noSession g), r)
  | lockOrCreate g => let (slot, r) := r.getOrCreate now g; (.ok (.session slot.session), r)
  | lockSlot ref =>
    match r.slot? ref with
    | some slot => (.ok (.session slot.session), r)
    | none => (.ok .nothing, r)
  | enqueue g e capacity =>
    let (slot, r) := r.getOrCreate now g
    let (result, r) := r.act now slot (Session.enqueue e capacity)
    (result.map .enqueued, r)
  | skip g =>
    match r.live.get? g with
    | some slot =>
      let (result, r) := r.act now slot Session.skip
      (result.map fun _ => .nothing, r)
    | none => (.error (.noSession g), r)
  | startVote request =>
    let o := r.desk.start now request
    (o.result.map .progress, { r with desk := o.desk })
  | evictIfIdle g threshold =>
    let (gone, r) := r.evictIfIdle now g threshold
    (.ok (.flag gone), r)
  | evict g => let (gone, r) := r.evict g; (.ok (.flag gone), r)

/-- Whether the request has to wait for a slot that somebody else has locked. -/
def waitsFor (q : RegistryRequest) (locked : SlotRef) : Bool :=
  match q with
  | getOrCreate _ | get _ | startVote _ => false
  | lock g | lockOrCreate g | enqueue g _ _ | skip g | evictIfIdle g _ | evict g =>
    g = locked.guild
  | lockSlot ref => ref = locked

/-- Answers a request that has waited for a slot. If the slot was torn down in the meantime, a
request for an existing session finds none, and one that may make a session makes a fresh one. -/
def answerAfter (q : RegistryRequest) (waited : SlotRef) (now : Nat) (r : Registry) : Answer :=
  if (r.slot? waited).isSome then q.answer now r
  else
    match q with
    | lock g | skip g => (.error (.noSession g), r)
    | evictIfIdle _ _ | evict _ => (.ok (.flag false), r)
    | _ => q.answer now r

/-- Answers the requests that need not wait for a locked slot, in order. Those that wait are left
unanswered. -/
def arrive (locked : SlotRef) (now : Nat) (r : Registry) :
    List RegistryRequest → List (Option (Except PlayerError RegistryReply)) × Registry
  | [] => ([], r)
  | q :: qs =>
    if q.waitsFor locked then
      let (answers, r) := arrive locked now r qs
      (none :: answers, r)
    else
      let (a, r) := q.answer now r
      let (answers, r) := arrive locked now r qs
      (some a :: answers, r)

/-- Answers the requests that waited, in order. -/
def leave (waited : SlotRef) (now : Nat) (r : Registry) :
    List (RegistryRequest × Option (Except PlayerError RegistryReply)) →
      List (Except PlayerError RegistryReply) × Registry
  | [] => ([], r)
  | (_, some a) :: rest =>
    let (answers, r) := leave waited now r rest
    (a :: answers, r)
  | (q, none) :: rest =>
    let (a, r) := q.answerAfter waited now r
    let (answers, r) := leave waited now r rest
    (a :: answers, r)

end RegistryRequest

/-- Requests that arrive in order while a guild's slot is locked, and are served in order once it
is not. The slot is made if the guild has none. -/
def Registry.race (r : Registry) (now : Nat) (guild : GuildId) (requests : List RegistryRequest) :
    List (Except PlayerError RegistryReply) × Registry :=
  let (slot, r) := r.getOrCreate now guild
  let (arrived, r) := RegistryRequest.arrive slot.ref now r requests
  RegistryRequest.leave slot.ref now r (requests.zip arrived)

end Jukebox
