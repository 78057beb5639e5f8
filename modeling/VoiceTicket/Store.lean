/-
  The store: everything the user sees, in one place.

  1. **Data** — a `Snapshot` is what is shown; a `Store` is the current snapshot and the number of
     times its subscribers have been told of a change.  A `Signal` is one thing that the status
     channel reports.

  2. **Program** — the user's side starts, ends and answers jobs and folds in their outcomes; the
     channel's side delivers signals (`receive`).  Both are brought together as `Operation`s.

  3. **Specification** — a rejected operation leaves everything alone (`perform` gives back the
     store it was given).  Every other one tells the subscribers, except a label or an indicator
     that is set to what it is already.  The log and the loop events only grow.

  4. **Crux** — the status and the live session are written from both sides.  A terminal status
     that the channel reports ends the session; so does a ticket, a failure, a reset and a new
     job.
-/
import VoiceTicket.EventLog
import VoiceTicket.LoopEvent
import VoiceTicket.Outcome
import VoiceTicket.Status

namespace VoiceTicket

/-- Everything the user sees. -/
structure Snapshot where
  status : Status
  label : Option String
  transcription : String
  log : EventLog
  clarification : Tracker
  loops : LoopHistory
  connected : Bool
  job : Option String
deriving DecidableEq, Repr

/-- Nothing has happened yet. -/
def Snapshot.initial : Snapshot :=
  ⟨.idle, none, "", .empty, .empty, .empty, false, none⟩

instance : Inhabited Snapshot := ⟨.initial⟩

/-- The current snapshot, and how often the subscribers have been told of a change. -/
structure Store where
  snapshot : Snapshot
  version : Nat
deriving DecidableEq, Repr, Inhabited

/-- One thing that the status channel reports. -/
inductive Signal where
  | log (level : Level) (message : String)
  | status (status : Status)
  | label (label : Option String)
  | connected (connected : Bool)
  | clarification (session : Session)
  | loop (event : LoopEvent)
deriving DecidableEq, Repr

namespace Snapshot

/-! ## Changes of the snapshot -/

/-- Appends an entry to the log. -/
def note (s : Snapshot) (level : Level) (message : String) : Snapshot :=
  { s with log := s.log.note level message }

/-- Ends the live session. -/
def endSession (s : Snapshot) : Snapshot := { s with clarification := .empty }

/-- Makes a session the live one, or logs why it cannot be. -/
def openSession (s : Snapshot) (session : Session) : Snapshot :=
  match s.clarification.accept session with
  | .ok tracker =>
    { s with status := .clarifying, label := none, clarification := tracker }.note .info
      ("Clarification needed (round " ++ toString session.round.toNat ++ ")")
  | .error refusal => s.note .warn refusal.message

/-- Begins a job. -/
def beginJob (s : Snapshot) (job : String) (status : Status) (label : String) : Snapshot :=
  { s with
    status, label := some label, transcription := "", clarification := .empty,
    job := some job }.note .info ("Job " ++ job ++ " started")

/-- Folds the outcome of a job in. -/
def fold (s : Snapshot) : Outcome → Snapshot
  | .ticket key url _ transcribed =>
    { s with
      clarification := .empty, status := .done, label := none
      transcription := if transcribed.isEmpty then s.transcription else transcribed }.note .info
      ("Ticket created: " ++ key ++ " (" ++ url ++ ")")
  | .clarification session _ => s.openSession session
  | .transcription text _ =>
    { s with transcription := text, status := .done, label := none }.note .info
      "Transcription received (pipeline endpoint unavailable)"

end Snapshot

namespace Store

/-- Nothing has happened yet. -/
def initial : Store := ⟨.initial, 0⟩

/-- Changes the snapshot and tells the subscribers. -/
def update (s : Store) (f : Snapshot → Snapshot) : Store := ⟨f s.snapshot, s.version + 1⟩

/-! ## The user's side -/

/-- Why an operation is rejected. -/
inductive Refusal where
  | busy (status : Status)
  | notRecording
  | noClarification
deriving DecidableEq, Repr

/-- The text of a rejection. -/
def Refusal.message : Refusal → String
  | .busy status => "Cannot start a new job while " ++ status.name
  | .notRecording => "Pipeline is not recording"
  | .noClarification => "No clarification is pending"

/-- Begins a job under a fresh id, unless one is under way. -/
def beginJob (s : Store) (job : String) (status : Status) (label : String) :
    Except Refusal Store :=
  if s.snapshot.status.canStart then .ok (s.update (·.beginJob job status label))
  else .error (.busy s.snapshot.status)

/-- Begins a job with a recording. -/
def startRecording (s : Store) (job : String) : Except Refusal Store :=
  s.beginJob job .recording "Recording…"

/-- The recording is over; its audio is on its way to the server. -/
def stopRecording (s : Store) : Except Refusal Store :=
  if s.snapshot.status.canStop then
    .ok (s.update fun x =>
      { x with status := .processing, label := some "Uploading audio…" }.note .info
        "Recording stopped")
  else .error .notRecording

/-- Sets the transcription. -/
def setTranscription (s : Store) (text : String) : Store :=
  s.update fun x => { x with transcription := text }

/-- Begins a job with a text. -/
def startTextJob (s : Store) (job text : String) : Except Refusal Store :=
  (s.beginJob job .processing "Submitting…").map (·.setTranscription text)

/-- Hands the live session over to the call that answers it. -/
def takeSession (s : Store) : Except Refusal (Session × Store) :=
  match s.snapshot.clarification.current with
  | none => .error .noClarification
  | some session => .ok (session, s.update fun x =>
      { x.endSession with status := .processing, label := some "Re-extracting intent…" }.note .info
        ("Answered clarification round " ++ toString session.round.toNat ++ " for session "
          ++ session.id))

/-- Folds the outcome of a job in. -/
def fold (s : Store) (outcome : Outcome) : Store := s.update (·.fold outcome)

/-- Logs a message of the user's side. -/
def note (s : Store) (message : String) : Store := s.update (·.note .info message)

/-- The job has failed. -/
def fail (s : Store) (message : String) : Store :=
  s.update fun x => { x.endSession with status := .error, label := none }.note .error message

/-- Back to the beginning, but for the log, the loop events and the indicator. -/
def reset (s : Store) : Store :=
  s.update fun x => { x.endSession with
    status := .idle, label := none, transcription := "", job := none }

/-! ## The channel's side -/

/-- Sets the label, if it changes. -/
def setLabel (s : Store) (label : Option String) : Store :=
  if s.snapshot.label = label then s else s.update fun x => { x with label }

/-- Sets the indicator, if it changes. -/
def setConnected (s : Store) (connected : Bool) : Store :=
  if s.snapshot.connected = connected then s else s.update fun x => { x with connected }

/-- Sets the status; a terminal one ends the live session. -/
def setStatus (s : Store) (status : Status) : Store :=
  s.update fun x =>
    let x := { x with status }
    if status.isTerminal then x.endSession else x

/-- Takes in what the status channel reports. -/
def receive (s : Store) : Signal → Store
  | .log level message => s.update (·.note level message)
  | .status status => s.setStatus status
  | .label label => s.setLabel label
  | .connected connected => s.setConnected connected
  | .clarification session => s.update (·.openSession session)
  | .loop event => s.update fun x =>
      { x.note .info event.describe with loops := x.loops.push event }

/-! ## Both sides together -/

/-- Everything that can be done to a store; a job comes with the id that it is to have. -/
inductive Operation where
  | startRecording (job : String)
  | stopRecording
  | startTextJob (job text : String)
  | setTranscription (text : String)
  | takeSession
  | fold (outcome : Outcome)
  | note (message : String)
  | fail (message : String)
  | reset
  | receive (signal : Signal)
deriving DecidableEq, Repr

/-- What an operation answers. -/
inductive Answer where
  | accepted
  | started (job : String)
  | session (session : Session)
  | rejected (refusal : Refusal)
deriving DecidableEq, Repr

/-- The answer and the store after an operation that may be rejected. -/
def settle (s : Store) (answer : Answer) : Except Refusal Store → Answer × Store
  | .ok s' => (answer, s')
  | .error r => (.rejected r, s)

/-- The answer to an operation, and the store after it. -/
def perform (s : Store) : Operation → Answer × Store
  | .startRecording job => s.settle (.started job) (s.startRecording job)
  | .stopRecording => s.settle .accepted s.stopRecording
  | .startTextJob job text => s.settle (.started job) (s.startTextJob job text)
  | .setTranscription text => (.accepted, s.setTranscription text)
  | .takeSession =>
    match s.takeSession with
    | .ok (session, s') => (.session session, s')
    | .error r => (.rejected r, s)
  | .fold outcome => (.accepted, s.fold outcome)
  | .note message => (.accepted, s.note message)
  | .fail message => (.accepted, s.fail message)
  | .reset => (.accepted, s.reset)
  | .receive signal => (.accepted, s.receive signal)

/-- The store after some operations. -/
def performAll (s : Store) (ops : List Operation) : Store :=
  ops.foldl (fun s op => (s.perform op).2) s

theorem performAll_append (s : Store) (before after : List Operation) :
    s.performAll (before ++ after) = (s.performAll before).performAll after := by
  simp [performAll]

theorem performAll_concat (s : Store) (ops : List Operation) (op : Operation) :
    s.performAll (ops ++ [op]) = ((s.performAll ops).perform op).2 := by
  simp [performAll]

theorem performAll_cons (s : Store) (op : Operation) (ops : List Operation) :
    s.performAll (op :: ops) = (s.perform op).2.performAll ops := by
  simp [performAll]

example : (initial.perform (.startRecording "j")).2.snapshot.status = .recording := by decide
example : (initial.perform .stopRecording) = (.rejected .notRecording, initial) := by decide

end Store

/-! ## A snapshot as a value -/

/-- An entry of the log as a value, with the time at which it was made. -/
def LogEntry.toJson (time : String) (e : LogEntry) : Json :=
  .obj [("timestamp", .str time), ("level", .str e.level.name), ("message", .str e.message),
    ("details", .ofOption .str e.details)]

/-- A snapshot as a value; the entries of its log are given one time. -/
def Snapshot.toJson (time : String) (s : Snapshot) : Json :=
  .obj [("status", s.status.toJson),
    ("progress_label", .ofOption .str s.label),
    ("transcription", .str s.transcription),
    ("log", .arr (s.log.entries.map (·.toJson time))),
    ("clarification", s.clarification.toJson),
    ("loop_events", s.loops.toJson),
    ("connected", .bool s.connected),
    ("job_id", .ofOption .str s.job)]

end VoiceTicket
