import Jukebox.Table

/-!
Identifiers: guilds, members, queue entries and streams. Each is a 64-bit word in a type of its
own, ordered by its value.
-/

namespace Jukebox

/-- A guild, the unit that owns a queue, settings and votes. -/
structure GuildId where
  val : UInt64
deriving DecidableEq, Repr, Inhabited

structure MemberId where
  val : UInt64
deriving DecidableEq, Repr, Inhabited

/-- One request for a track, so that two requests for the same track stay apart. -/
structure EntryId where
  val : UInt64
deriving DecidableEq, Repr, Inhabited

structure StreamHandle where
  val : UInt64
deriving DecidableEq, Repr, Inhabited

instance : Ranked GuildId where
  rank g := g.val.toNat
  rank_injective {a b} h := by cases a; cases b; simpa [UInt64.toNat_inj] using h

instance : Ranked MemberId where
  rank m := m.val.toNat
  rank_injective {a b} h := by cases a; cases b; simpa [UInt64.toNat_inj] using h

instance : ToString GuildId := ⟨fun g => toString g.val.toNat⟩
instance : ToString MemberId := ⟨fun m => toString m.val.toNat⟩
instance : ToString EntryId := ⟨fun e => toString e.val.toNat⟩

def EntryId.next (e : EntryId) : EntryId := ⟨e.val + 1⟩

def StreamHandle.next (h : StreamHandle) : StreamHandle := ⟨h.val + 1⟩

/-- A set of members, kept in ascending order. -/
abbrev MemberSet := Table MemberId Unit

namespace MemberSet

def ofList (ms : List MemberId) : MemberSet := Table.ofList (ms.map fun m => (m, ()))

end MemberSet

end Jukebox
