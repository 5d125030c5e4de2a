import Jukebox.Settings.Row

/-!
Where guild settings are kept: in memory as they are, or as rows of a database. A repository can
be told to reject reads, and one in memory to reject writes.
-/

namespace Jukebox

inductive Shelf
  | memory (settings : Table GuildId GuildSettings)
  | database (rows : RowTable)

namespace Shelf

/-- The settings of a guild; a guild never written has set nothing. -/
def read (s : Shelf) (guild : GuildId) : GuildSettings :=
  match s with
  | memory settings => (settings.get? guild).getD {}
  | database rows => ((rows.find? (toString guild)).map (·.toSettings)).getD {}

def write (s : Shelf) (guild : GuildId) (value : GuildSettings) : Shelf :=
  match s with
  | memory settings => memory (settings.insert guild value)
  | database rows => database (rows.upsert (.ofSettings (toString guild) value))

end Shelf

structure Repository where
  shelf : Shelf := .memory .empty
  rejectsReads : Bool := false
  rejectsWrites : Bool := false
  loads : Nat := 0
  saves : Nat := 0

namespace Repository

def inMemory : Repository := {}

def inDatabase : Repository := { shelf := .database {} }

/-- Whether the settings are kept as rows. -/
def isDatabase (r : Repository) : Bool :=
  match r.shelf with
  | .memory _ => false
  | .database _ => true

def load (r : Repository) (guild : GuildId) : Except PlayerError GuildSettings × Repository :=
  if r.rejectsReads then (.error (.persistence "read rejected"), r)
  else (.ok (r.shelf.read guild), { r with loads := r.loads + 1 })

def save (r : Repository) (guild : GuildId) (value : GuildSettings) :
    Except PlayerError Unit × Repository :=
  if r.rejectsWrites then (.error (.persistence "write rejected"), r)
  else (.ok (), { r with shelf := r.shelf.write guild value, saves := r.saves + 1 })

def rejectReads (r : Repository) (on : Bool) : Repository := { r with rejectsReads := on }

/-- Has writes rejected from now on, or no longer. A database accepts every write. -/
def rejectWrites (r : Repository) (on : Bool) : Repository :=
  match r.shelf with
  | .memory _ => { r with rejectsWrites := on }
  | .database _ => r

/-- The settings kept for a guild. In memory a guild that was never written has none. -/
def stored? (r : Repository) (guild : GuildId) : Option GuildSettings :=
  match r.shelf with
  | .memory settings => settings.get? guild
  | .database _ => some (r.shelf.read guild)

end Repository

end Jukebox
