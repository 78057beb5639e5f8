/-
  Loop events read straight from a text.

  1. **Program** — `LoopEvent.parse` reads an event from the text in one pass, without building
     the value in between.

  2. **Specification** — the event is an object with its five fields in any order, or a list of
     them in order.  Reading stops at the first thing that is wrong, in the order of the text:
     `mismatch` where the text is JSON so far but not an event (a wrong type, an unknown kind, a
     field twice or not at all), `malformed` where it is not JSON.

  3. **Crux** — a wrong scalar is read to its end before it is called wrong, a wrong array or
     object is not.  The value of a field that is not known is only skipped: neither its nesting,
     nor the size of its numbers, nor the pairing of its surrogates is looked at.
-/
import VoiceTicket.Json.Parser
import VoiceTicket.LoopEvent

namespace VoiceTicket

namespace LoopEvent

open Json (Reader)

/-- What is wrong with a text that is read as an event. -/
inductive Fault where
  | malformed
  | mismatch
deriving DecidableEq, Repr

/-- Takes a value off the front of a text, or says what is wrong with it. -/
abbrev Stream (α : Type) := List Char → Except Fault (α × List Char)

namespace Stream

/-! ## Skipping a value -/

/-- A string, its escapes checked for their form only. -/
def skipChars : List Char → Option (Unit × List Char)
  | [] => none
  | '"' :: rest => some ((), rest)
  | '\\' :: 'u' :: a :: b :: c :: d :: rest =>
    match Reader.hex4 a b c d with
    | some _ => skipChars rest
    | none => none
  | '\\' :: c :: rest =>
    match Reader.shortEscape? c with
    | some _ => skipChars rest
    | none => none
  | c :: rest => if c < ' ' || c == '\\' then none else skipChars rest

/-- A string with its quotes. -/
def skipString : Reader Unit
  | '"' :: cs => skipChars cs
  | _ => none

/-- Neither an array nor an object. -/
def skipScalar : Reader Unit
  | '"' :: cs => skipString ('"' :: cs)
  | 'n' :: 'u' :: 'l' :: 'l' :: cs => some ((), cs)
  | 't' :: 'r' :: 'u' :: 'e' :: cs => some ((), cs)
  | 'f' :: 'a' :: 'l' :: 's' :: 'e' :: cs => some ((), cs)
  | cs => (Json.Numeral.scan cs).map fun (_, rest) => ((), rest)

/-- Any value; `bound` is at least its nesting. -/
def skip : (bound : Nat) → Reader Unit
  | 0, cs => skipScalar cs
  | bound + 1, cs =>
    match cs with
    | '[' :: cs => (Reader.group (skip bound) ']' cs).map fun (_, rest) => ((), rest)
    | '{' :: cs =>
      (Reader.group (Reader.member skipString (skip bound)) '}' cs).map fun (_, rest) => ((), rest)
    | cs => skipScalar cs

/-! ## Reading a typed value -/

/-- A reader whose failure means that the text is malformed. -/
def ofReader {α : Type} (r : Reader α) : Stream α := fun cs =>
  match r cs with
  | some found => .ok found
  | none => .error .malformed

/-- What is wrong where a value of another type stands. -/
def wrongType (cs : List Char) : Fault :=
  match cs with
  | '[' :: _ | '{' :: _ => .mismatch
  | cs => if (Reader.scalar cs).isSome then .mismatch else .malformed

/-- A text. -/
def text : Stream String := fun cs =>
  match cs with
  | '"' :: _ => ofReader Reader.string cs
  | _ => .error (wrongType cs)

/-- A truth value. -/
def boolean : Stream Bool := fun cs =>
  match Reader.scalar cs with
  | some (.bool b, rest) => .ok (b, rest)
  | _ => .error (wrongType cs)

/-- Nothing. -/
def nothing : Stream Unit := fun cs =>
  match Reader.scalar cs with
  | some (.null, rest) => .ok ((), rest)
  | _ => .error (wrongType cs)

/-- A value or nothing. -/
def nullable {α : Type} (inner : Stream α) : Stream (Option α) := fun cs =>
  match cs with
  | 'n' :: _ => (nothing cs).map fun (_, rest) => (none, rest)
  | _ => (inner cs).map fun (a, rest) => (some a, rest)

/-- A colon, with blanks around it. -/
def colon (cs : List Char) : Except Fault (List Char) :=
  match Reader.colon cs with
  | some rest => .ok rest
  | none => .error .malformed

/-- The kind with a name. -/
def kindNamed (name : String) : Except Fault LoopKind :=
  match LoopKind.ofName? name with
  | some k => .ok k
  | none => .error .mismatch

/-- A kind: its name, or an object with its name as the only key and nothing under it. -/
def loopKind : Stream LoopKind := fun cs =>
  match cs with
  | '"' :: _ => do
    let (name, rest) ← text cs
    return (← kindNamed name, rest)
  | '{' :: cs => do
    let (name, cs) ← text (Reader.skipSpace cs)
    let k ← kindNamed name
    let (_, cs) ← nothing (← colon cs)
    match Reader.skipSpace cs with
    | '}' :: rest => .ok (k, rest)
    | _ => .error .malformed
  | _ => .error .malformed

/-! ## Reading an event -/

/-- The fields of an event that have been read. -/
structure Partial where
  kind : Option LoopKind
  issue : Option String
  summary : Option (Option String)
  success : Option (Option Bool)
  timestamp : Option String

/-- No field has been read. -/
def Partial.empty : Partial := ⟨none, none, none, none, none⟩

/-- The event, if all fields that it needs have been read. -/
def Partial.event (p : Partial) : Except Fault LoopEvent :=
  match p.kind, p.issue, p.timestamp with
  | some kind, some issue, some timestamp =>
    .ok ⟨kind, issue, p.summary.join, p.success.join, timestamp⟩
  | _, _, _ => .error .mismatch

/-- Reads the value of a field that must not have been read before. -/
def once {α : Type} (old : Option α) (inner : Stream α) : Stream α := fun cs =>
  match old with
  | some _ => .error .mismatch
  | none => do inner (← colon cs)

/-- Reads the value that stands under a key. -/
def Partial.read (p : Partial) (key : String) : Stream Partial := fun cs =>
  match key with
  | "type" => return (← once p.kind loopKind cs).map (fun k => { p with kind := some k }) id
  | "issue_key" => return (← once p.issue text cs).map (fun t => { p with issue := some t }) id
  | "summary" =>
    return (← once p.summary (nullable text) cs).map (fun t => { p with summary := some t }) id
  | "success" =>
    return (← once p.success (nullable boolean) cs).map (fun b => { p with success := some b }) id
  | "timestamp" =>
    return (← once p.timestamp text cs).map (fun t => { p with timestamp := some t }) id
  | _ => do
    let cs ← colon cs
    return (← ofReader (skip cs.length) cs).map (fun _ => p) id

/-- The next member of an object, behind a comma unless it is the first. -/
def nextKey (first : Bool) (cs : List Char) : Except Fault (Option String × List Char) :=
  match Reader.skipSpace cs with
  | '}' :: rest => .ok (none, rest)
  | ',' :: rest =>
    if first then .error .malformed
    else (ofReader Reader.string (Reader.skipSpace rest)).map fun (k, rest) => (some k, rest)
  | cs =>
    if first then (ofReader Reader.string cs).map fun (k, rest) => (some k, rest)
    else .error .malformed

/-- The members of an object from the next one on; `bound` is more than their number. -/
def object : (bound : Nat) → Bool → Partial → Stream LoopEvent
  | 0, _, _, _ => .error .malformed
  | bound + 1, first, p, cs => do
    match ← nextKey first cs with
    | (none, rest) => return (← p.event, rest)
    | (some key, rest) =>
      let (p, rest) ← p.read key rest
      object bound false p rest

/-- The next item of a list, behind a comma unless it is the first; nothing at its end. -/
def item {α : Type} (first : Bool) (inner : Stream α) : Stream (Option α) := fun cs =>
  match Reader.skipSpace cs with
  | ']' :: _ => .ok (none, cs)
  | ',' :: rest =>
    if first then .error .malformed
    else match Reader.skipSpace rest with
      | ']' :: _ => .error .malformed
      | rest => (inner rest).map fun (a, rest) => (some a, rest)
  | cs =>
    if first then (inner cs).map fun (a, rest) => (some a, rest) else .error .malformed

/-- The items of a list, in the order of the fields. -/
def list : Stream LoopEvent := fun cs => do
  let (kind, cs) ← item true loopKind cs
  if kind.isNone then throw .mismatch
  let (issue, cs) ← item false text cs
  if issue.isNone then throw .mismatch
  let (summary, cs) ← item false (nullable text) cs
  let (success, cs) ← item false (nullable boolean) cs
  let (timestamp, cs) ← item false text cs
  let event ← Partial.event ⟨kind, issue, summary, success, timestamp⟩
  match Reader.skipSpace cs with
  | ']' :: rest => return (event, rest)
  | _ => throw .malformed

/-- An event, as an object or as a list. -/
def event : Stream LoopEvent := fun cs =>
  match cs with
  | '{' :: cs => object (cs.length + 1) true .empty cs
  | '[' :: cs => list cs
  | cs => .error (wrongType cs)

end Stream

/-- The event that a text spells. -/
def parse (s : String) : Except Fault LoopEvent := do
  let (e, rest) ← Stream.event (Reader.skipSpace s.toList)
  if (Reader.skipSpace rest).isEmpty then return e else throw .malformed

example : (parse "[\"loop_started\",\"VP-1\",null,true,\"t\"]").toOption =
    some ⟨.started, "VP-1", none, some true, "t"⟩ := by decide +kernel
example : (match parse "\x7b\"type\":5\x7d" with | .error f => f | .ok _ => .mismatch) =
    .malformed := by decide +kernel

end LoopEvent

end VoiceTicket
