import Jukebox.Station.Basic

/-!
Upkeep: the settings of guilds, the sweep that gives up sessions nobody uses, and the passing of
time.

The sweep looks at cached settings only. A guild without listeners is swept once it has been alone
for its window, even while it plays; any other session once it has been idle for its window.
-/

namespace Jukebox.Station

def setSetting (s : Station) (guild : GuildId) (k : SettingKey) (v : Option SettingValue) :
    Except PlayerError GuildSettings × Station :=
  let (result, settings) := s.settings.set guild k v
  (result, { s with settings })

/-- Sets the share of members that must say yes, or resets it. -/
def setSkipRatio (s : Station) (guild : GuildId) (ratio : Option UInt8) :
    Except PlayerError GuildSettings × Station :=
  s.setSetting guild .skipRatio (ratio.map fun n => .number n.toUInt32)

def guildSettings (s : Station) (guild : GuildId) : Except PlayerError GuildSettings × Station :=
  let (result, settings) := s.settings.snapshot guild
  (result, { s with settings })

def millis (secs : Nat) : Nat := secs * 1000

/-- Whether a guild has had no listener for its whole window. -/
def isAbandoned (s : Station) (guild : GuildId) : Bool :=
  match s.presence.aloneFor s.now guild with
  | none => false
  | some alone => millis (s.settings.cachedEffective guild).leaveEmptyChannelSecs ≤ alone

/-- Sweeps one guild. The result says whether its session was given up. -/
def sweepGuild (s : Station) (guild : GuildId) : Bool × Station :=
  if s.isAbandoned guild then
    let (gone, registry) := s.registry.evict guild
    (gone, { s with registry, presence := s.presence.clearAlone guild })
  else
    let (gone, registry) := s.registry.evictIfIdle s.now guild
      (millis (s.settings.cachedEffective guild).inactivitySecs)
    (gone, { s with registry })

def sweepGuilds (s : Station) : List GuildId → Nat × Station
  | [] => (0, s)
  | guild :: guilds =>
    let (gone, s) := s.sweepGuild guild
    let (others, s) := s.sweepGuilds guilds
    ((if gone then 1 else 0) + others, s)

def sweep (s : Station) : Nat × Station := s.sweepGuilds s.registry.guilds

/-- Sets the time of the next sweep. -/
def setSweeper (s : Station) (period : Nat) : Station :=
  { s with sweeper := some { period, next := s.now + period, opened := s.desk.opened } }

/-- Has the sweep run now and then once every period. -/
def startSweeper (s : Station) (period : Nat) : Station := s.sweep.2.setSweeper period

/-- Has no sweep run any more. The result says whether one would have. -/
def stopSweeper (s : Station) : Bool × Station := (s.sweeper.isSome, { s with sweeper := none })

def expireVotes (s : Station) : Station :=
  let (desk, resolved) := s.desk.expire s.now
  s.withDesk desk resolved

/-- Runs the sweep if it is due, after the overdue votes that were opened before it was set. -/
def sweepIfDue (s : Station) : Station :=
  match s.sweeper with
  | none => s
  | some w =>
    if w.next ≤ s.now then
      let (desk, resolved) := s.desk.expireFirst s.now w.opened
      (s.withDesk desk resolved).startSweeper w.period
    else s

/-- What is due at a moment: the sweep and the deadlines of votes. -/
def passMoment (s : Station) (moment : Nat) : Station :=
  ({ s with now := moment }.sweepIfDue).expireVotes

/-- The moments up to `target` at which the sweep is due. -/
def sweepTimes (s : Station) (target : Nat) : List Nat :=
  match s.sweeper with
  | none => []
  | some w =>
    if target < w.next then []
    else (List.range ((target - w.next) / w.period + 1)).map fun i => w.next + i * w.period

/-- Lets time pass. What is due on the way happens in order, each thing at its own moment. -/
def advance (s : Station) (duration : Nat) : Station :=
  let target := s.now + duration
  let moments := (s.desk.dueTimes s.now target ++ s.sweepTimes target).mergeSort (· ≤ ·)
  { moments.foldl passMoment s with now := target }

end Jukebox.Station
