import Jukebox.Command.Dispatch

/-!
The console, where an operator with both roles types commands, one a line.
-/

namespace Jukebox

def operatorRoles : MemberRoles := { dj := true, manager := true }

/-- Reads a line as a command of the operator. -/
def Invocation.ofConsole (line : String) : Except PlayerError Invocation :=
  (Invocation.ofLine line).map fun i => { i with roles := operatorRoles }

def Station.runLine (s : Station) (line : String) : Except PlayerError CommandReply × Station :=
  match Invocation.ofConsole line with
  | .error e => (.error e, s)
  | .ok i => s.dispatch i

end Jukebox
