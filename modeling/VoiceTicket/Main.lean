/-
  The program: settings from a file, lines from the standard input, answers on the screen.

  All that is decided is decided by the modules that are imported; this one reads and writes.
  There is no network at hand, so that every request and the attempt at the status channel fail.
-/
import VoiceTicket.JobId
import VoiceTicket.Keeper.Action
import VoiceTicket.Terminal.Dialogue

namespace VoiceTicket.Program

/-- What stands at a path. -/
def readPlace (path : String) : IO Place := do
  try
    return .file (← IO.FS.readBinFile path).toList
  catch
    | .noFileOrDirectory .. => return .nothing
    | _ => return .directory

/-- Writes the settings file if it has changed. -/
def writePlace (folder path : String) (before after : Place) : IO Unit := do
  if before ≠ after then
    if let .file bytes := after then
      IO.FS.createDirAll folder
      IO.FS.writeBinFile path ⟨bytes.toArray⟩

/-- Shows lines. -/
def showLines (lines : List Terminal.Line) : IO Unit :=
  lines.forM fun
    | .out text => IO.println text
    | .error text => IO.eprintln text

/-- Shows what has changed between two snapshots. -/
def showChanges (before after : Snapshot) : IO Unit :=
  ((Screen.of before).changes after).forM IO.println

/-- The store after an attempt at the status channel that fails. -/
def attemptChannel (d : Desk) : Store :=
  let k := { Keeper.new d.config.policy d.config.serverUrl with store := d.store }
  (k.actTogether "" [.refuse [.webSocket .unreachable], .start]).2.store

/-- Goes through the lines of the standard input. -/
partial def converse (folder path : String) (input : IO.FS.Stream) (d : Desk) : IO Unit := do
  let line ← input.getLine
  if line.isEmpty then return
  let job := jobId (← IO.getRandomBytes 16).toList
  let h := Terminal.handle d job (.read line)
  showLines h.shown
  showChanges d.store.snapshot h.desk.store.snapshot
  writePlace folder path d.place h.desk.place
  if h.goesOn then converse folder path input h.desk

/-- Runs the program. -/
def run : IO Unit := do
  let configured ← IO.getEnv "XDG_CONFIG_HOME"
  let home := (← IO.getEnv "HOME").getD "/"
  let folder := Settings.folder configured home
  let path := Settings.defaultPath configured home
  let place ← readPlace path
  let d := Terminal.startingDesk place (← IO.getEnv Settings.serverUrlVariable) .unreachable
  writePlace folder path place d.place
  showLines (Terminal.greeting d)
  let after := attemptChannel d
  showChanges d.store.snapshot after.snapshot
  converse folder path (← IO.getStdin) { d with store := after }

end VoiceTicket.Program

/-- Runs the program. -/
def main : IO Unit := VoiceTicket.Program.run
