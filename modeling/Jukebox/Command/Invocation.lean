import Jukebox.Command.Table
import Jukebox.Config
import Jukebox.Id
import Jukebox.Vote

/-!
Invocations: who asks for which command, where, and with which arguments.
-/

namespace Jukebox

structure Invocation where
  guild : GuildId
  member : MemberId
  roles : MemberRoles := {}
  name : String
  args : List String := []
deriving DecidableEq, Repr

namespace Invocation

def readId (what : String) : Option String → Except PlayerError UInt64
  | none => .error (.validation ("missing <" ++ what ++ ">"))
  | some word =>
    match Text.numeral Config.maxWord64 word with
    | .ok n => .ok (UInt64.ofNat n)
    | .error _ =>
      .error (.validation ("<" ++ what ++ "> must be a number, got \x60" ++ word ++ "\x60"))

/-- Reads a line of a console: the guild, the member, the command and its arguments. The line
grants no roles. -/
def ofLine (line : String) : Except PlayerError Invocation := do
  let words := Text.words line
  let guild ← readId "guild" words[0]?
  let member ← readId "member" words[1]?
  match words.drop 2 with
  | [] => .error (.validation "missing <command>")
  | name :: args => return { guild := ⟨guild⟩, member := ⟨member⟩, name, args }

def arg (i : Invocation) (index : Nat) (name : String) : Except PlayerError String :=
  match i.args[index]? with
  | some a => .ok a
  | none => .error (.validation ("missing argument <" ++ name ++ ">"))

/-- A position that a member counts from one, counted from zero. -/
def position (i : Invocation) (index : Nat) (name : String) : Except PlayerError Nat := do
  let raw ← i.arg index name
  match Text.numeral Config.maxWord64 (Text.trim raw) with
  | .ok (n + 1) => return n
  | _ =>
    .error (.validation ("<" ++ name ++ "> must be a positive number, got '" ++ raw ++ "'"))

def voteKind (i : Invocation) : Except PlayerError VoteKind := do
  let raw ← i.arg 0 "vote"
  let word := Text.lowerAscii (Text.trim raw)
  match VoteKind.ofWord? word with
  | some kind => return kind
  | none =>
    .error (.validation ("unknown vote '" ++ word ++ "' (expected skip, stop or clear)"))

end Invocation

end Jukebox
