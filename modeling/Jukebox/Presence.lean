import Jukebox.Id

/-!
Who is listening in each guild, and since when nobody is.

A guild is marked alone at the moment its last listener leaves, until somebody joins again.
-/

namespace Jukebox

structure Presence where
  members : Table GuildId MemberSet := .empty
  /-- When the last listener of a guild left, in milliseconds. -/
  aloneSince : Table GuildId Nat := .empty
deriving DecidableEq

namespace Presence

def listeners (p : Presence) (guild : GuildId) : MemberSet := (p.members.get? guild).getD .empty

def contains (p : Presence) (guild : GuildId) (m : MemberId) : Bool :=
  (p.listeners guild).contains m

def count (p : Presence) (guild : GuildId) : Nat := (p.listeners guild).size

/-- A member joins. The result says whether the member was absent. -/
def joined (p : Presence) (guild : GuildId) (m : MemberId) : Bool × Presence :=
  let before := p.listeners guild
  (!before.contains m,
    { members := p.members.insert guild (before.insert m ())
      aloneSince := p.aloneSince.erase guild })

/-- A member leaves. The result says whether the member was present. -/
def left (p : Presence) (now : Nat) (guild : GuildId) (m : MemberId) : Bool × Presence :=
  if p.contains guild m then
    let after := (p.listeners guild).erase m
    if after.isEmpty then
      (true,
        { members := p.members.erase guild
          aloneSince :=
            if p.aloneSince.contains guild then p.aloneSince else p.aloneSince.insert guild now })
    else (true, { p with members := p.members.insert guild after })
  else (false, p)

/-- How long a guild has had no listener, if it is marked alone. -/
def aloneFor (p : Presence) (now : Nat) (guild : GuildId) : Option Nat :=
  (p.aloneSince.get? guild).map fun since => now - since

def clearAlone (p : Presence) (guild : GuildId) : Presence :=
  { p with aloneSince := p.aloneSince.erase guild }

def forget (p : Presence) (guild : GuildId) : Presence :=
  { members := p.members.erase guild, aloneSince := p.aloneSince.erase guild }

end Presence

end Jukebox
