/-
  The terminal: one line in, some lines out.

  1. **Program** — `Terminal.handle` does what one line asks for; `Terminal.dialogue` does so for
     all lines of the standard input.

  2. **Specification** — a line of text answers the live session if there is one, and begins a job
     if there is none.  A command that fails is reported on one line, and the session goes on; it
     ends at a line that asks for that, at the end of the input, and at a line that is no text.

  3. **Crux** — only a line of text ever reaches the server as text: what begins with a colon is a
     command or a mistake.
-/
import VoiceTicket.Commands
import VoiceTicket.Terminal.Input
import VoiceTicket.Terminal.Screen

namespace VoiceTicket.Terminal

/-- One line on the screen: on the standard output, or an error. -/
inductive Line where
  | out (text : String)
  | error (text : String)
deriving DecidableEq, Repr

/-- The text of a line on the standard output. -/
def Line.out? : Line → Option String
  | .out text => some text
  | .error _ => none

/-- The text of an error. -/
def Line.error? : Line → Option String
  | .out _ => none
  | .error text => some text

/-- The line for a fault. -/
def faultLine (f : Command.Fault) : Line := .error ("error: " ++ f.text)

/-- The help. -/
def help : List String := [
  "Type a request and press Enter to run the pipeline.",
  "While a clarification is open, the next line is sent as the answer.",
  "Commands:",
  "  :url <base>   change the server URL (status channel switches on next reconnect)",
  "  :status       show the current state",
  "  :health       check the server health",
  "  :reset        return to idle",
  "  :help         this text",
  "  :quit         exit"]

/-- The line for a command that is not known. -/
def unknownLine (line : String) : String :=
  "Unknown command '" ++ line ++ "'. Type :help for commands."

/-- The line for a report of the server. -/
def healthLine (base : String) (h : Health) : String :=
  "server " ++ base ++ ": " ++ h.status ++ " ("
    ++ (match h.listeners with
      | some n => toString n
      | none => "?")
    ++ " status listeners)"

/-- What a line comes to: what is shown, the desk after it, and whether the session goes on. -/
structure Handled where
  shown : List Line
  desk : Desk
  goesOn : Bool
deriving DecidableEq, Repr

/-- Nothing happens but that some lines are shown. -/
def shows (d : Desk) (lines : List String) : Handled := ⟨lines.map .out, d, true⟩

/-- A command shows its fault, or some lines for its answer. -/
def answered {α : Type} (lines : α → Desk → List String) : Desk.Answer α → Handled
  | (.ok a, d) => ⟨(lines a d).map .out, d, true⟩
  | (.error f, d) => ⟨[faultLine f], d, true⟩

/-- A command shows its fault, and nothing for its answer. -/
def silently {α : Type} : Desk.Answer α → Handled := answered fun _ _ => []

/-- Does what a line asks for; a job that it begins has the given id. -/
def handle (d : Desk) (job : String) : Input → Handled
  | .quit => ⟨[], d, false⟩
  | .empty => shows d []
  | .help => shows d help
  | .unknown line => shows d [unknownLine line]
  | .showStatus => shows d d.store.snapshot.summary
  | .reset => shows { d with store := d.store.reset } []
  | .setUrl url => silently (d.setServerUrl url)
  | .health => answered (fun h d => [healthLine (Backend.baseUrl d.baseUrl) h]) d.checkHealth
  | .text text =>
    if d.store.snapshot.clarification.isActive then silently (d.answer text)
    else silently (d.submitText job text)

/-! ## The standard input -/

/-- The lines of some bytes; what stands behind the last line break is one if it is not empty. -/
def splitLines : List UInt8 → List (List UInt8)
  | [] => []
  | b :: bs =>
    if b = 10 then [] :: splitLines bs
    else
      match splitLines bs with
      | [] => [[b]]
      | line :: rest => (b :: line) :: rest

/-- Goes through the lines, up to one that ends the dialogue or is no text; the n-th line has the
n-th job id at its disposal. -/
def converse (d : Desk) (jobs : Nat → String) (n : Nat) : List (List UInt8) → List Line × Desk
  | [] => ([], d)
  | line :: rest =>
    match Text.Utf8.decode? line with
    | none => ([], d)
    | some text =>
      let h := handle d (jobs n) (Input.read text)
      if h.goesOn then
        let (shown, d) := converse h.desk jobs (n + 1) rest
        (h.shown ++ shown, d)
      else (h.shown, h.desk)

/-- The settings that a run starts with: those at a place, or the defaults if they cannot be
loaded, which are then never written. -/
def startingConfig (place : Place) (runUrl : Option String) : Config × Place :=
  match Config.loading place with
  | (.ok config, place) => (config.withOverride runUrl, place)
  | (.error _, place) => ((Config.inMemory .standard).withOverride runUrl, place)

/-- The desk that a run starts with. -/
def startingDesk (place : Place) (runUrl : Option String) (wire : Http.Wire) : Desk :=
  let (config, place) := startingConfig place runUrl
  .new config place wire

/-- What is shown before any line is read. -/
def greeting (d : Desk) : List Line := (("Server: " ++ d.config.serverUrl) :: help).map .out

/-- A whole run: what is shown, and the desk at its end. -/
def dialogue (d : Desk) (jobs : Nat → String) (input : List UInt8) : List Line × Desk :=
  let (shown, d') := converse d jobs 0 (splitLines input)
  (greeting d ++ shown, d')

example : splitLines [97, 10, 10, 98] = [[97], [], [98]] := by decide
example : splitLines [97, 13, 10] = [[97, 13]] := by decide

end VoiceTicket.Terminal
