/-
  What the terminal shows.

  1. **Data** — a `Screen` is what the terminal has shown of a snapshot, as far as it matters for
     what is to be shown next.

  2. **Program** — `Screen.changes` gives the lines for what has changed since; `Snapshot.summary`
     the lines of a full report.

  3. **Specification** — every entry of the log is shown once, in order; a round of clarification
     is shown when it is live and not the one that was shown before.

  4. **Crux** — the log only grows, so its length is all that has to be kept of it, however many
     changes lie between two looks at it.
-/
import VoiceTicket.Store

namespace VoiceTicket

/-- What the terminal has shown. -/
structure Screen where
  connected : Bool
  status : Status
  label : Option String
  logSize : Nat
  session : Option Session
deriving DecidableEq, Repr

namespace Screen

/-- The screen once a snapshot is shown. -/
def of (s : Snapshot) : Screen :=
  ⟨s.connected, s.status, s.label, s.log.size, s.clarification.current⟩

/-- The line for the indicator. -/
def connectedLine (connected : Bool) : String :=
  if connected then "● status channel connected" else "○ status channel disconnected"

/-- The line for an entry of the log. -/
def logLine (e : LogEntry) : String := "[" ++ e.level.name ++ "] " ++ e.message

/-- The lines for questions, numbered from some number on. -/
def questionLines : Nat → List String → List String
  | _, [] => []
  | n, q :: qs => ("  " ++ toString n ++ ". " ++ q) :: questionLines (n + 1) qs

/-- The lines for a round of clarification. -/
def sessionLines (s : Session) : List String :=
  ("Clarification needed (round " ++ toString s.round.toNat ++ "): " ++ s.summary)
    :: questionLines 1 s.questions ++ ["Type your answer and press Enter."]

/-- The lines for the indicator, if it has changed. -/
def connectedChange (shown : Screen) (s : Snapshot) : List String :=
  if shown.connected = s.connected then [] else [connectedLine s.connected]

/-- The lines for the status, if it has changed. -/
def statusChange (shown : Screen) (s : Snapshot) : List String :=
  if shown.status = s.status then [] else ["status: " ++ s.status.name]

/-- The lines for the label, if it has changed to another one. -/
def labelChange (shown : Screen) (s : Snapshot) : List String :=
  if shown.label = s.label then [] else s.label.toList.map ("  " ++ ·)

/-- The lines for the entries of the log that are new. -/
def logChange (shown : Screen) (s : Snapshot) : List String :=
  (s.log.entries.drop shown.logSize).map logLine

/-- The lines for the live session, if it has not been shown. -/
def sessionChange (shown : Screen) (s : Snapshot) : List String :=
  match s.clarification.current with
  | none => []
  | some session => if shown.session = some session then [] else sessionLines session

/-- The lines for what has changed since. -/
def changes (shown : Screen) (s : Snapshot) : List String :=
  connectedChange shown s ++ statusChange shown s ++ labelChange shown s ++ logChange shown s
    ++ sessionChange shown s

/-- What has been shown is not shown again. -/
theorem changes_of (s : Snapshot) : (of s).changes s = [] := by
  simp only [changes, connectedChange, statusChange, labelChange, logChange, sessionChange, of,
    EventLog.size, List.drop_length, List.map_nil, if_true, List.nil_append]
  split
  · rfl
  · next h => simp [h]

end Screen

/-! ## The full report -/

namespace Snapshot

/-- The line for the status and the label. -/
def statusLine (s : Snapshot) : String :=
  "status: " ++ s.status.name ++
    match s.label with
    | some label => " (" ++ label ++ ")"
    | none => ""

/-- The line for a live session. -/
def sessionLine (s : Session) : String :=
  "clarification: session " ++ s.id ++ " round " ++ toString s.round.toNat ++ " ("
    ++ toString s.questions.length ++ " questions)"

/-- How many loop events a report shows. -/
def shownEvents : Nat := 5

/-- The lines of a full report; the latest loop events come last, the newest of them first. -/
def summary (s : Snapshot) : List String :=
  [s.statusLine,
    "status channel: " ++ if s.connected then "connected" else "disconnected"]
  ++ s.job.toList.map ("job: " ++ ·)
  ++ (if s.transcription.isEmpty then [] else ["transcription: " ++ s.transcription])
  ++ s.clarification.current.toList.map sessionLine
  ++ (s.loops.events.reverse.take shownEvents).map ("  " ++ ·.describe)

end Snapshot

end VoiceTicket
