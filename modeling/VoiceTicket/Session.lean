/-
  Clarification sessions.

  When the server cannot make one ticket out of a request it asks questions, possibly over several
  rounds.

  1. **Data** — a `Session` is one round of questions.  At most one is live; a `Tracker` holds it.

  2. **Program** — `Tracker.accept` decides whether a session may become the live one;
     `Tracker.opened` is the tracker after that.

  3. **Specification** — a round replaces the live one wholesale.  It is refused when its id is
     blank, and when it belongs to the live session and comes from an earlier round.

  4. **Crux** — rounds are compared within one id only: a session with another id always replaces
     the live one, whatever its round.
-/
import VoiceTicket.Json.Decode
import VoiceTicket.Text.Blank

namespace VoiceTicket

/-- One round of questions about a request. -/
structure Session where
  id : String
  questions : List String
  summary : String
  round : UInt32
deriving DecidableEq, Repr, Inhabited

namespace Session

/-- The fields of a session, in the order in which they are written. -/
def members (s : Session) : List (String × Json) :=
  [("session_id", .str s.id),
   ("questions", .arr (s.questions.map .str)),
   ("partial_summary", .str s.summary),
   ("round", .ofNat s.round.toNat)]

/-- A session as a value. -/
def toJson (s : Session) : Json := .obj s.members

/-- Reads a session.  Only the id is required; rounds count from one, so that a missing round and
round zero are the first. -/
def decode : Json.Decoder Session := fun v => do
  let summary ← Json.Decoder.present "partial_summary" .text v
  let questions ← Json.Decoder.present "questions" (.list .text) v
  let round ← Json.Decoder.present "round" (.nullable (.unsigned 32)) v
  let id ← Json.Decoder.present "session_id" .text v
  let id ← Json.Decoder.require "session_id" id
  return {
    id
    questions := questions.getD []
    summary := summary.getD ""
    round := UInt32.ofNat (max (round.join.getD 1) 1) }

end Session

/-! ## The live session -/

/-- Why a session cannot become the live one. -/
inductive Session.Refusal where
  | blankId
  | staleRound (id : String) (current received : UInt32)
deriving DecidableEq, Repr

/-- The text of a refusal. -/
def Session.Refusal.message : Session.Refusal → String
  | .blankId => "Clarification session id is empty"
  | .staleRound id current received =>
    "Stale clarification round " ++ toString received.toNat ++ " for session " ++ id
      ++ " (current round " ++ toString current.toNat ++ ")"

/-- The live session, if there is one. -/
structure Tracker where
  current : Option Session
deriving DecidableEq, Repr, Inhabited

namespace Tracker

/-- No session is live. -/
def empty : Tracker := ⟨none⟩

/-- Whether a session is live. -/
def isActive (t : Tracker) : Bool := t.current.isSome

/-- Why a session may not become the live one, if it may not. -/
def refusal? (t : Tracker) (s : Session) : Option Session.Refusal :=
  if Text.isBlankText s.id then some .blankId
  else match t.current with
    | some live =>
      if live.id = s.id ∧ s.round < live.round then some (.staleRound s.id live.round s.round)
      else none
    | none => none

/-- Makes a session the live one, in the place of the one before. -/
def accept (t : Tracker) (s : Session) : Except Session.Refusal Tracker :=
  match t.refusal? s with
  | some r => .error r
  | none => .ok ⟨some s⟩

/-- The live session as a value. -/
def toJson (t : Tracker) : Json := .ofOption Session.toJson t.current

end Tracker

end VoiceTicket
