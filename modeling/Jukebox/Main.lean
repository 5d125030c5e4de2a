import Jukebox.Command.Console
import Jukebox.Document.Report

/-!
The command line: reads commands of the operator from standard input, one a line, runs each at the
time at which it comes, and prints the replies and the events. Settings are kept in memory.
-/

namespace Jukebox

/-- The environment of the process, as far as the configuration looks at it. -/
def processEnvironment : IO Config.Environment := do
  let read ← Config.variableNames.mapM fun v => do return (v, ← IO.getEnv v)
  return fun v => (read.lookup v).join

def shownReply : Except PlayerError CommandReply → String
  | .ok reply => "reply " ++ (Document.of reply).render
  | .error e => "command refused: " ++ e.message

/-- The station after a line, and what is printed. A blank line does nothing. -/
def afterLine (s : Station) (line : String) : List String × Station :=
  if Text.isAllBlank line then ([], s)
  else
    let (reply, s) := s.runLine line
    let s := s.settle
    (shownReply reply :: s.published.map fun e => "session event " ++ (Document.of e).render,
      { s with published := [] })

/-- Runs lines until the input ends. `start` is when the station was made. -/
partial def runLines (input : IO.FS.Stream) (start : Nat) (s : Station) : IO Unit := do
  let line ← input.getLine
  if line.isEmpty then return
  let elapsed := (← IO.monoMsNow) - start
  let (shown, s) := afterLine (s.advance (elapsed - s.now)) line
  shown.forM IO.println
  runLines input start s

end Jukebox

def main : IO UInt32 := do
  match Jukebox.Config.ofEnvironment (← Jukebox.processEnvironment) with
  | .error e => IO.eprintln e.message; return 1
  | .ok config =>
    let station : Jukebox.Station := .create config .inMemory { nextHandle := ⟨0⟩ }
    let swept := station.startSweeper (config.sweepIntervalSecs * 1000)
    Jukebox.runLines (← IO.getStdin) (← IO.monoMsNow) swept
    return 0
