/-
  The status of the pipeline, and the codes that report it.

  1. **Data** — `Status` is where the job of this client stands.  `Progress` is what one reported
     code says: a status, and for the codes of work in progress a text for the user.

  2. **Program** — `Progress.ofCode?` looks a code up.  The server reports progress as a status
     code or as the name of the stage it is in; the two vocabularies overlap and share one table.

  3. **Specification** — codes are matched exactly.  A code that is not in the table says nothing:
     newer servers may report stages that this client does not know.
-/
import VoiceTicket.Json.Decode

namespace VoiceTicket

/-- Where the job of this client stands. -/
inductive Status where
  | idle
  | recording
  | processing
  | clarifying
  | done
  | error
deriving DecidableEq, Repr, Inhabited

namespace Status

/-- Every status, in the order in which messages list them. -/
def all : List Status := [idle, recording, processing, clarifying, done, error]

/-- The name of a status on the wire and on the screen. -/
def name : Status → String
  | idle => "idle"
  | recording => "recording"
  | processing => "processing"
  | clarifying => "clarifying"
  | done => "done"
  | error => "error"

/-- The status with a name. -/
def ofName? (name : String) : Option Status := all.find? (·.name == name)

/-- A new job may be started. -/
def canStart : Status → Bool
  | idle | done | error => true
  | recording | processing | clarifying => false

/-- A recording is under way and may be ended. -/
def canStop : Status → Bool
  | recording => true
  | _ => false

/-- The job is over, for better or worse. -/
def isTerminal : Status → Bool
  | done | error => true
  | _ => false

/-- A status as a value. -/
def toJson (s : Status) : Json := .str s.name

/-- Reads a status. -/
def decode : Json.Decoder Status := fun v => do
  let name ← Json.Decoder.variant (all.map Status.name) v
  -- The name is one of those just listed.
  return (ofName? name).getD idle

theorem ofName?_name (s : Status) : ofName? s.name = some s := by
  cases s <;> decide

end Status

/-! ## Codes -/

/-- What a code reports: a status, and a text for the user while work is in progress. -/
structure Progress where
  status : Status
  label : Option String
deriving DecidableEq, Repr

/-- The codes that are known, with what they report. -/
def Progress.codes : List (String × Progress) := [
  ("recording", ⟨.recording, some "Recording…"⟩),
  ("transcribing", ⟨.processing, some "Transcribing audio…"⟩),
  ("extracting", ⟨.processing, some "Extracting intent…"⟩),
  ("creating", ⟨.processing, some "Creating ticket…"⟩),
  ("creating_ticket", ⟨.processing, some "Creating ticket…"⟩),
  ("clarifying", ⟨.clarifying, none⟩),
  ("completed", ⟨.done, none⟩),
  ("done", ⟨.done, none⟩),
  ("error", ⟨.error, none⟩)]

/-- What a code reports, if it is known. -/
def Progress.ofCode? (code : String) : Option Progress := codes.lookup code

example : Progress.ofCode? "creating" = some ⟨.processing, some "Creating ticket…"⟩ := by decide
example : Progress.ofCode? "DONE" = none ∧ Progress.ofCode? "idle" = none := by decide

end VoiceTicket
