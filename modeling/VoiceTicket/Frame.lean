/-
  Frames: what the server says on the status channel.

  1. **Data** — a `Frame` is one message of the channel, told apart by its shape: a round of
     clarification, a loop event, a report of progress, an object that says nothing, or a text
     that is none of these.

  2. **Program** — `Frame.read` classifies a text.

  3. **Specification** — messages have no common envelope.  A `type` that is known decides alone:
     such an object is its kind of message or, if it cannot be read as one, plain text.  Only
     without a known `type` is an object a report of progress, and then if it has a `status` or a
     `current_node` that is a text.

  4. **Crux** — the tests are made in this order, so that no clarification and no loop event is
     ever also taken for a report of progress.
-/
import VoiceTicket.LoopEvent
import VoiceTicket.Session

namespace VoiceTicket

/-- One message of the status channel. -/
inductive Frame where
  | clarification (session : Session)
  | loop (event : LoopEvent)
  | progress (status node : Option String)
  | silent
  | raw (text : String)
deriving DecidableEq, Repr

namespace Frame

/-- The `type` of a round of clarification. -/
def clarificationType : String := "clarification_needed"

/-- The text under a key, if there is one. -/
def textField (key : String) (v : Json) : Option String := (v.field? key).bind Json.text?

/-- What an object without a known `type` says. -/
def ofUntyped (v : Json) : Frame :=
  let status := textField "status" v
  let node := textField "current_node" v
  if status.isSome || node.isSome then .progress status node else .silent

/-- What an object says, if its `type` allows it to be read. -/
def ofObject? (now : String) (v : Json) : Option Frame :=
  match textField "type" v with
  | none => some (ofUntyped v)
  | some type =>
    if type = clarificationType then (Session.decode v).toOption.map .clarification
    else match LoopKind.ofName? type with
      | some kind => (LoopEvent.decode kind now v).toOption.map .loop
      | none => some (ofUntyped v)

/-- What a text says; `now` is the time of an event that comes without one. -/
def read (now : String) (text : String) : Frame :=
  match Json.parse? text with
  | some (.obj members) => (ofObject? now (.obj members)).getD (.raw text)
  | _ => .raw text

/-- The codes that a report of progress carries, in the order in which they take effect. -/
def codes : Frame → List String
  | .progress status node => status.toList ++ node.toList
  | _ => []

example : read "now" "\x7b\"type\":\"heartbeat\",\"status\":\"done\"\x7d" =
    .progress (some "done") none := by decide +kernel
example : read "now" "[1,2]" = .raw "[1,2]" := by decide +kernel

end Frame

end VoiceTicket
