/-
  Outcomes: what a call to the server produced.

  1. **Data** — an `Outcome` is a ticket, a round of clarification, or a transcription only.  A
     `Health` is the server's report about itself.

  2. **Program** — `Outcome.ofJson` reads the body of a reply; `Health.decode` the report.

  3. **Specification** — the three shapes share one object and are told apart by one field each,
     in this order: a `status` that is the text `clarification_needed`, a `ticket_key` with any
     value, a `text` with any value.  The first that applies decides, also when the rest of the
     object then turns out not to fit.

  4. **Crux** — a body never falls through to a later shape: a broken ticket is an error, not a
     transcription.
-/
import VoiceTicket.Session

namespace VoiceTicket

/-- What a call produced. -/
inductive Outcome where
  | ticket (key url summary transcribed : String)
  | clarification (session : Session) (ambiguity : Option Binary64)
  | transcription (text : String) (language : Option String)
deriving DecidableEq, Repr

namespace Outcome

/-- Why a body is not an outcome. -/
inductive Fault where
  | notObject (value : Json)
  | badSession
  | mismatch (m : Json.Mismatch)
  | noShape
deriving DecidableEq, Repr

/-- The text of a fault. -/
def Fault.message : Fault → String
  | .notObject v => "expected a JSON object, got " ++ v.render
  | .badSession => "clarification without session_id"
  | .mismatch m => m.message
  | .noShape => "no ticket, clarification or transcription"

/-- A number as a double. -/
def score? : Json → Option Binary64
  | .num (.int i) => some (Binary64.ofInt i)
  | .num (.float x) => some x
  | _ => none

/-- Reads a ticket.  Only the key is required. -/
def decodeTicket : Json.Decoder Outcome := fun v => do
  let summary ← Json.Decoder.present "summary" .text v
  let key ← Json.Decoder.present "ticket_key" .text v
  let url ← Json.Decoder.present "ticket_url" .text v
  let transcribed ← Json.Decoder.present "transcribed_text" .text v
  let key ← Json.Decoder.require "ticket_key" key
  return .ticket key (url.getD "") (summary.getD "") (transcribed.getD "")

/-- Reads a transcription.  Only the text is required. -/
def decodeTranscription : Json.Decoder Outcome := fun v => do
  let language ← Json.Decoder.present "language" (.nullable .text) v
  let text ← Json.Decoder.present "text" .text v
  let text ← Json.Decoder.require "text" text
  return .transcription text language.join

/-- Reads a typed value, keeping why it cannot be read. -/
def read (decode : Json.Decoder Outcome) (v : Json) : Except Fault Outcome :=
  match decode v with
  | .ok outcome => .ok outcome
  | .error m => .error (.mismatch m)

/-- Whether the value calls itself a round of clarification. -/
def asksForClarification (v : Json) : Bool :=
  v.field? "status" == some (.str "clarification_needed")

/-- The outcome that a body describes. -/
def ofJson (v : Json) : Except Fault Outcome :=
  if !v.isObject then .error (.notObject v)
  else if asksForClarification v then
    match Session.decode v with
    | .ok session => .ok (.clarification session ((v.field? "ambiguity_score").bind score?))
    | .error _ => .error .badSession
  else if (v.field? "ticket_key").isSome then read decodeTicket v
  else if (v.field? "text").isSome then read decodeTranscription v
  else .error .noShape

end Outcome

/-! ## Health -/

/-- What the server reports about itself. -/
structure Health where
  status : String
  listeners : Option Nat
  ticketing : Option Bool
deriving DecidableEq, Repr

namespace Health

/-- Reads a report from its fields. -/
def decodeFields : Json.Decoder Health := fun v => do
  let ticketing ← Json.Decoder.present "jira_configured" (.nullable .boolean) v
  let status ← Json.Decoder.present "status" .text v
  let listeners ← Json.Decoder.present "ws_connections" (.nullable (.unsigned 64)) v
  let status ← Json.Decoder.require "status" status
  return ⟨status, listeners.join, ticketing.join⟩

/-- Reads a report from its values in order; those after the first may be left out. -/
def decodeList : List Json → Except Json.Mismatch Health
  | [] => .error (.tooShort 0 "HealthReport" 3)
  | status :: rest => do
    let status ← Json.Decoder.text status
    let listeners ← match rest with
      | v :: _ => Json.Decoder.nullable (.unsigned 64) v
      | [] => pure none
    let ticketing ← match rest with
      | _ :: v :: _ => Json.Decoder.nullable .boolean v
      | _ => pure none
    if rest.length ≤ 2 then return ⟨status, listeners, ticketing⟩
    else .error (.tooLong (rest.length + 1))

/-- Reads a report, written as an object or as a list. -/
def decode : Json.Decoder Health
  | .obj members => decodeFields (.obj members)
  | .arr items => decodeList items
  | v => .error (.type v.found (.record "HealthReport"))

end Health

end VoiceTicket
