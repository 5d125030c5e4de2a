import Jukebox.Settings.Repository

/-!
Guild settings behind a cache. Reads load a guild once and are then served from memory. A write is
checked first, then saved, and only then replaces the cached settings, so that a rejected write
leaves the cache as it was.
-/

namespace Jukebox

structure SettingsCache where
  repository : Repository := {}
  defaults : EffectiveSettings := {}
  entries : Table GuildId GuildSettings := .empty

namespace SettingsCache

def cached? (c : SettingsCache) (guild : GuildId) : Option GuildSettings := c.entries.get? guild

def load (c : SettingsCache) (guild : GuildId) :
    Except PlayerError GuildSettings × SettingsCache :=
  let (loaded, repository) := c.repository.load guild
  (loaded, { c with repository })

def remember (c : SettingsCache) (guild : GuildId) (s : GuildSettings) : SettingsCache :=
  { c with entries := c.entries.insert guild s }

/-- What a guild has set; loaded and cached when it is not in the cache yet. -/
def snapshot (c : SettingsCache) (guild : GuildId) :
    Except PlayerError GuildSettings × SettingsCache :=
  match c.cached? guild with
  | some s => (.ok s, c)
  | none =>
    match c.load guild with
    | (.ok s, c) => (.ok s, c.remember guild s)
    | (.error e, c) => (.error e, c)

/-- The value of a key that settings and defaults show: what the guild has set, or else the
default. -/
def shown (defaults : EffectiveSettings) (s : GuildSettings) (k : SettingKey) : SettingValue :=
  (s.override? k).getD ((EffectiveSettings.resolve s defaults).value k)

def get (c : SettingsCache) (guild : GuildId) (k : SettingKey) :
    Except PlayerError SettingValue × SettingsCache :=
  let (s, c) := c.snapshot guild
  (s.map fun s => shown c.defaults s k, c)

def effective (c : SettingsCache) (guild : GuildId) :
    Except PlayerError EffectiveSettings × SettingsCache :=
  let (s, c) := c.snapshot guild
  (s.map fun s => .resolve s c.defaults, c)

/-- Saves a guild's settings with one key changed, and caches them once they are saved. -/
def write (c : SettingsCache) (guild : GuildId) (k : SettingKey) (v : Option SettingValue)
    (current : GuildSettings) : Except PlayerError GuildSettings × SettingsCache :=
  let updated := current.set k v
  match c.repository.save guild updated with
  | (.ok (), repository) => (.ok updated, { c with repository }.remember guild updated)
  | (.error e, repository) => (.error e, { c with repository })

/-- A value is allowed for a key; a reset always is. -/
def check (k : SettingKey) : Option SettingValue → Except PlayerError Unit
  | none => .ok ()
  | some v => k.validate v

def set (c : SettingsCache) (guild : GuildId) (k : SettingKey) (v : Option SettingValue) :
    Except PlayerError GuildSettings × SettingsCache :=
  match check k v with
  | .error e => (.error e, c)
  | .ok () =>
    match c.cached? guild with
    | some current => c.write guild k v current
    | none =>
      match c.load guild with
      | (.ok current, c) => c.write guild k v current
      | (.error e, c) => (.error e, c)

/-- Drops a guild from the cache; the next read loads it again. -/
def invalidate (c : SettingsCache) (guild : GuildId) : SettingsCache :=
  { c with entries := c.entries.erase guild }

/-- The settings in effect as far as the cache knows: a guild that is not cached counts as one that
has set nothing. -/
def cachedEffective (c : SettingsCache) (guild : GuildId) : EffectiveSettings :=
  .resolve ((c.cached? guild).getD {}) c.defaults

end SettingsCache

end Jukebox
