/-
  Commands: what the user can do.

  1. **Data** — a `Desk` is all that a command works with: the store, the settings in use and
     their file, and the wire to the server.

  2. **Program** — a command looks at its arguments, then at the store, then calls the server, and
     folds the answer into the store.

  3. **Specification** — a command that is rejected by its arguments or by the store sends nothing
     and leaves no trace.  Every other one leaves the job done, in clarification or failed, with
     the reason of the failure in the log; but for one that brings a round of clarification that
     the tracker refuses, which leaves it in process.

  4. **Crux** — the session that is answered is taken out of the store before the call is made, so
     that no answer is sent twice.

  A command runs from its beginning to its end; what the status channel does to the store while a
  call is under way is left out here, and is in the operations of the store.
-/
import VoiceTicket.Backend
import VoiceTicket.Settings.Disk
import VoiceTicket.Store

namespace VoiceTicket

/-- All that a command works with. -/
structure Desk where
  store : Store
  config : Config
  place : Place
  wire : Http.Wire
deriving DecidableEq, Repr

namespace Command

/-- What kind of thing went wrong. -/
inductive Kind where
  | timeout
  | network
  | server
  | protocol
  | validation
  | state
  | config
  | unknown
deriving DecidableEq, Repr

/-- The name of a kind. -/
def Kind.name : Kind → String
  | .timeout => "timeout"
  | .network => "network"
  | .server => "server"
  | .protocol => "protocol"
  | .validation => "validation"
  | .state => "state"
  | .config => "config"
  | .unknown => "unknown"

/-- Why a command failed, for the user. -/
structure Fault where
  message : String
  kind : Kind
deriving DecidableEq, Repr

namespace Fault

/-- The text of a fault, with its kind. -/
def text (f : Fault) : String := f.message ++ " (" ++ f.kind.name ++ ")"

/-- A fault as a value. -/
def toJson (f : Fault) : Json :=
  .obj [("message", .str f.message), ("error_type", .str f.kind.name)]

/-- The fault of a call. -/
def ofBackend (f : Backend.Fault) : Fault :=
  ⟨f.message,
    match f with
    | .network (.timedOut _) => .timeout
    | .network _ => .network
    | .server .. => .server
    | .invalid .. => .protocol
    | .emptyText => .validation⟩

/-- The rejection of an operation. -/
def ofStore (r : Store.Refusal) : Fault := ⟨r.message, .state⟩

/-- The fault of the settings. -/
def ofSettings (f : Settings.Fault) : Fault :=
  ⟨f.message,
    match f with
    | .invalidUrl _ => .validation
    | _ => .config⟩

/-- Any other message. -/
def ofMessage (message : String) : Fault := ⟨message, .unknown⟩

end Fault

end Command

namespace Desk

open Command (Fault)

/-- What a command answers, and the desk after it. -/
abbrev Answer (α : Type) := Except Fault α × Desk

/-- A desk with nothing on it yet. -/
def new (config : Config) (place : Place) (wire : Http.Wire) : Desk :=
  ⟨.initial, config, place, wire⟩

/-- The base URL that calls go to. -/
def baseUrl (d : Desk) : String := d.config.serverUrl

/-- Folds the answer of a call into the store. -/
def settle (d : Desk) (action : String) (answer : Except Backend.Fault Outcome) :
    Answer Outcome :=
  match answer with
  | .ok outcome => (.ok outcome, { d with store := d.store.fold outcome })
  | .error fault =>
    (.error (.ofBackend fault),
      { d with store := d.store.fail (action ++ " failed: " ++ fault.message) })

/-- Runs the pipeline on a text, as a job with a fresh id. -/
def submitText (d : Desk) (job text : String) : Answer Outcome :=
  match Backend.requireText text with
  | .error fault => (.error (.ofBackend fault), d)
  | .ok text =>
    match d.store.startTextJob job text with
    | .error r => (.error (.ofStore r), d)
    | .ok store =>
      let (answer, wire) := Backend.runText d.baseUrl text d.wire
      { d with store, wire }.settle "Pipeline run" answer

/-- Answers the live round of clarification; a blank answer leaves it open. -/
def answer (d : Desk) (text : String) : Answer Outcome :=
  match Backend.requireText text with
  | .error fault => (.error (.ofBackend fault), d)
  | .ok text =>
    match d.store.takeSession with
    | .error r => (.error (.ofStore r), d)
    | .ok (session, store) =>
      let (answer, wire) := Backend.clarify d.baseUrl session.id text d.wire
      { d with store, wire }.settle "Clarification" answer

/-- Begins a recording, as a job with a fresh id. -/
def startRecording (d : Desk) (job : String) : Answer String :=
  match d.store.startRecording job with
  | .error r => (.error (.ofStore r), d)
  | .ok store => (.ok job, { d with store })

/-- Ends the recording and sends it. -/
def upload (d : Desk) (wav : List UInt8) : Answer Outcome :=
  match d.store.stopRecording with
  | .error r => (.error (.ofStore r), d)
  | .ok store =>
    let (answer, wire) := Backend.sendAudio d.baseUrl wav d.wire
    { d with store, wire }.settle "Audio upload" answer

/-- Asks the server how it is. -/
def checkHealth (d : Desk) : Answer Health :=
  let (answer, wire) := Backend.health d.baseUrl d.wire
  (answer.mapError .ofBackend, { d with wire })

/-- Edits the server URL. -/
def setServerUrl (d : Desk) (text : String) : Answer String :=
  match d.config.setServerUrl d.place text with
  | (.error fault, config, place) => (.error (.ofSettings fault), { d with config, place })
  | (.ok url, config, place) =>
    (.ok url,
      { d with
        config, place
        store := d.store.note
          ("Server URL set to " ++ url ++ " (status channel switches on next reconnect)") })

end Desk

end VoiceTicket
