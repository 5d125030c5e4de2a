import Jukebox.Settings.Cache

/-!
Several users of a settings cache at once.

Each user makes requests one after the other. A request that is not answered from the cache needs
the guild's lock, which is handed on first come, first served; under the lock it may have to wait
for a load. The users start in order, and each goes on until it has to wait.
-/

namespace Jukebox

/-- A request to a settings cache, or to the repository behind its back. -/
inductive SettingsRequest
  | snapshot (guild : GuildId)
  | get (guild : GuildId) (key : SettingKey)
  | effective (guild : GuildId)
  | set (guild : GuildId) (key : SettingKey) (value : Option SettingValue)
  | invalidate (guild : GuildId)
  | store (guild : GuildId) (settings : GuildSettings)
  | rejectReads (on : Bool)
  | rejectWrites (on : Bool)
  | defaults

inductive SettingsReply
  | settings (s : GuildSettings)
  | value (v : SettingValue)
  | effective (e : EffectiveSettings)
  | done
deriving DecidableEq, Repr

abbrev SettingsAnswer := Except PlayerError SettingsReply × SettingsCache

namespace SettingsRequest

def answer (r : SettingsRequest) (c : SettingsCache) : SettingsAnswer :=
  match r with
  | snapshot g => let (s, c) := c.snapshot g; (s.map .settings, c)
  | get g k => let (v, c) := c.get g k; (v.map .value, c)
  | effective g => let (e, c) := c.effective g; (e.map .effective, c)
  | set g k v => let (s, c) := c.set g k v; (s.map .settings, c)
  | invalidate g => (.ok .done, c.invalidate g)
  | store g s =>
    let (r, repository) := c.repository.save g s
    (r.map fun _ => .done, { c with repository })
  | rejectReads on => (.ok .done, { c with repository := c.repository.rejectReads on })
  | rejectWrites on => (.ok .done, { c with repository := c.repository.rejectWrites on })
  | defaults => (.ok (.effective c.defaults), c)

/-- The guild whose lock the request needs, given the cache at the moment it is made. -/
def lock? (r : SettingsRequest) (c : SettingsCache) : Option GuildId :=
  match r with
  | snapshot g | get g _ | effective g => if (c.cached? g).isSome then none else some g
  | set g k v => if (SettingsCache.check k v).isOk then some g else none
  | _ => none

/-- Whether the request, once it holds the lock of a guild, has to load that guild. -/
def needsLoad (c : SettingsCache) (guild : GuildId) : Bool := (c.cached? guild).isNone

end SettingsRequest

/-- A user in the middle of its requests: which one it is, and what it still has to ask for. -/
structure SettingsUser where
  index : Nat
  requests : List SettingsRequest

/-- Users of a cache, with the locks and loads they wait for. -/
structure Crowd where
  cache : SettingsCache
  now : Nat := 0
  /-- How long a load takes, in milliseconds. -/
  loadDelay : Nat
  /-- Whether every load gives way to the other users, even one that takes no time. -/
  yields : Bool := false
  /-- The guilds whose lock is held. -/
  held : List GuildId := []
  /-- The users that wait for a lock, in the order in which they came. -/
  waiting : List (GuildId × SettingsUser) := []
  /-- The users that wait for a load under a lock, with the moment it is done. -/
  loading : List (Nat × GuildId × SettingsUser) := []
  /-- The users that were handed a lock and have not gone on yet. -/
  ready : List (GuildId × SettingsUser) := []
  /-- The answers so far, with the user they belong to, latest first. -/
  answers : List (Nat × Except PlayerError SettingsReply) := []

namespace Crowd

def note (c : Crowd) (index : Nat) (a : SettingsAnswer) : Crowd :=
  { c with cache := a.2, answers := (index, a.1) :: c.answers }

/-- Puts a load in line by the moment it is done. -/
def addLoad (c : Crowd) (g : GuildId) (u : SettingsUser) : Crowd :=
  let due := c.now + c.loadDelay
  let (earlier, later) := c.loading.partition fun l => l.1 ≤ due
  { c with loading := earlier ++ (due, g, u) :: later }

/-- Hands a lock to the user that has waited for it longest, or sets it free. -/
def release (c : Crowd) (g : GuildId) : Crowd :=
  match c.waiting.find? (fun w => w.1 = g) with
  | some (_, u) =>
    { c with
      waiting := c.waiting.eraseP fun w => w.1 = g
      ready := c.ready ++ [(g, u)] }
  | none => { c with held := c.held.erase g }

/-- A user goes on with its requests until it has to wait. -/
def proceed (c : Crowd) (index : Nat) : List SettingsRequest → Crowd
  | [] => c
  | r :: rest =>
    match r.lock? c.cache with
    | none => (c.note index (r.answer c.cache)).proceed index rest
    | some g =>
      if g ∈ c.held then { c with waiting := c.waiting ++ [(g, ⟨index, r :: rest⟩)] }
      else if SettingsRequest.needsLoad c.cache g ∧ (0 < c.loadDelay ∨ c.yields) then
        { c with held := g :: c.held }.addLoad g ⟨index, r :: rest⟩
      else (c.note index (r.answer c.cache)).proceed index rest

/-- A user under a lock answers its request, passes the lock on, and goes on. -/
def finish (c : Crowd) (g : GuildId) (u : SettingsUser) : Crowd :=
  match u.requests with
  | [] => c.release g
  | r :: rest => ((c.note u.index (r.answer c.cache)).release g).proceed u.index rest

/-- A user that was handed a lock answers its request or starts a load. -/
def enter (c : Crowd) (g : GuildId) (u : SettingsUser) : Crowd :=
  if SettingsRequest.needsLoad c.cache g ∧ (0 < c.loadDelay ∨ c.yields) then c.addLoad g u
  else c.finish g u

/-- Lets the users go on, those with a lock before those with a load, for so many turns. -/
def turn (c : Crowd) : Nat → Crowd
  | 0 => c
  | turns + 1 =>
    match c.ready with
    | (g, u) :: ready => ({ c with ready }.enter g u).turn turns
    | [] =>
      match c.loading with
      | (due, g, u) :: loading => ({ c with now := due, loading }.finish g u).turn turns
      | [] => c

end Crowd

namespace SettingsCache

/-- Serves several users at once, each with its requests in order. The result has the answers of
each user in order. Every request takes at most two turns: one to be handed the lock, one to
finish a load. -/
def together (c : SettingsCache) (loadDelay : Nat) (users : List (List SettingsRequest)) :
    List (List (Except PlayerError SettingsReply)) × SettingsCache :=
  let crowd : Crowd := { cache := c, loadDelay, yields := c.repository.isDatabase }
  let started := users.zipIdx.foldl (fun crowd u => crowd.proceed u.2 u.1) crowd
  let ended := started.turn (2 * users.flatten.length)
  (users.zipIdx.map fun u =>
    (ended.answers.reverse.filter fun a => a.1 = u.2).map (·.2), ended.cache)

end SettingsCache

end Jukebox
