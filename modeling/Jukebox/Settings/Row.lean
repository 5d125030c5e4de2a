import Jukebox.Settings.Basic

/-!
Guild settings as rows of a database, whose numbers are signed 32-bit words.

A number that does not fit the type on the other side is left unset, in both directions.
-/

namespace Jukebox

/-- One row: the guild as text, and its settings. -/
structure SettingsRow where
  guild : String
  skipRatio : Option Int32 := none
  voteTimeoutSecs : Option Int32 := none
  maxQueueSize : Option Int32 := none
  autoDisconnectMinutes : Option Int32 := none
  selfVote : Option Bool := none
  leaveEmptyChannelSecs : Option Int32 := none
deriving DecidableEq, Repr

namespace SettingsRow

/-- An unsigned word as a signed one, if it fits. -/
def signed? (n : UInt32) : Option Int32 :=
  if n.toNat < 2147483648 then some (Int32.ofNat n.toNat) else none

/-- A signed word as an unsigned one, if it fits. -/
def unsigned? (i : Int32) : Option UInt32 :=
  if 0 ≤ i.toInt then some (UInt32.ofNat i.toInt.toNat) else none

/-- A signed word as a byte, if it fits. -/
def byte? (i : Int32) : Option UInt8 :=
  if 0 ≤ i.toInt ∧ i.toInt ≤ 255 then some (UInt8.ofNat i.toInt.toNat) else none

def ofSettings (guild : String) (s : GuildSettings) : SettingsRow where
  guild
  skipRatio := s.skipRatio.map fun n => Int32.ofNat n.toNat
  voteTimeoutSecs := s.voteTimeoutSecs.bind signed?
  maxQueueSize := s.maxQueueSize.bind signed?
  autoDisconnectMinutes := s.autoDisconnectMinutes.bind signed?
  selfVote := s.selfVote
  leaveEmptyChannelSecs := s.leaveEmptyChannelSecs.bind signed?

def toSettings (r : SettingsRow) : GuildSettings where
  skipRatio := r.skipRatio.bind byte?
  voteTimeoutSecs := r.voteTimeoutSecs.bind unsigned?
  maxQueueSize := r.maxQueueSize.bind unsigned?
  autoDisconnectMinutes := r.autoDisconnectMinutes.bind unsigned?
  selfVote := r.selfVote
  leaveEmptyChannelSecs := r.leaveEmptyChannelSecs.bind unsigned?

end SettingsRow

/-- A table of rows, at most one for each guild. -/
structure RowTable where
  rows : List SettingsRow := []
deriving DecidableEq, Repr

namespace RowTable

def find? (t : RowTable) (guild : String) : Option SettingsRow :=
  t.rows.find? fun r => r.guild = guild

/-- Writes a row in place of the row of the same guild. -/
def upsert (t : RowTable) (row : SettingsRow) : RowTable :=
  ⟨t.rows.filter (fun r => r.guild ≠ row.guild) ++ [row]⟩

end RowTable

end Jukebox
