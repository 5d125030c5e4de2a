import Jukebox.Command.Table
import Jukebox.Config

/-!
The status line. It goes round a list of statuses: the lines of a file, then the names of the
commands.
-/

namespace Jukebox

/-- The file of statuses: its path, and its bytes if there is such a file. -/
structure StatusFile where
  path : String
  bytes : Option ByteArray

/-- The status file cannot be read as text. -/
structure UnreadableStatusFile where
  path : String
deriving DecidableEq, Repr

def UnreadableStatusFile.message (e : UnreadableStatusFile) : String :=
  "failed to read activity file " ++ e.path

namespace StatusFile

def contents? (f : StatusFile) : Option String := f.bytes.bind String.fromUTF8?

end StatusFile

/-- Statuses that are shown in turn, each for an interval in milliseconds. -/
structure Rotation where
  statuses : List String
  interval : Nat
deriving DecidableEq, Repr

namespace Rotation

/-- The statuses in a text: its lines without blanks around them, but no empty ones. -/
def statusesOf (contents : String) : List String :=
  ((Text.lines contents).map Text.trim).filter (· ≠ "")

/-- Every command with what members type before it. -/
def commandStatuses (commandPrefix : String) : List String :=
  commands.map fun c => commandPrefix ++ c.name

/-- The statuses in ascending order, which stands for every order that a random one may be. -/
def inOrder (statuses : List String) : List String := statuses.mergeSort (· ≤ ·)

/-- The rotation that a configuration asks for. -/
def ofConfig (c : ActivityConfig) (file : Option StatusFile) (interval : Nat) :
    Except UnreadableStatusFile Rotation := do
  let own ← match file with
    | none => pure []
    | some f =>
      match f.contents? with
      | some text => pure (statusesOf text)
      | none => throw ⟨f.path⟩
  let statuses := own ++ (if c.includeCommands then commandStatuses c.commandPrefix else [])
  return { statuses := if c.randomized then inOrder statuses else statuses, interval }

def isRunning (r : Rotation) : Bool := !r.statuses.isEmpty

/-- What is shown up to a moment, and when: the first status at once, and the next one after each
interval. -/
def shownUntil (r : Rotation) (moment : Nat) : List (Nat × String) :=
  (List.range (moment / r.interval + 1)).filterMap fun turn =>
    (r.statuses[turn % r.statuses.length]?).map fun status => (turn * r.interval, status)

end Rotation

end Jukebox
