/-
  The keeper in time.

  1. **Program** — `Keeper.settle` lets all runs go on until each of them has to wait;
     `Keeper.wait` lets time pass and wakes whoever is due on the way, in order;
     `Keeper.shutdown` stops and waits for the last run to end.

  2. **Specification** — no time passes while anything can go on.  What is due at the same time
     goes on in the order of the runs.

  3. **Crux** — each step of a run uses something up: an unread event, an answer to an attempt, a
     wait that is over.  `Keeper.work` adds that up, and bounds the number of steps until all wait.
-/
import VoiceTicket.Keeper.Step

namespace VoiceTicket.Keeper

/-! ## Until all wait -/

/-- The world after the next step of the first run of some that can go on. -/
def advanceFirst (k : Keeper) (now : String) : List Nat → Option Keeper
  | [] => none
  | run :: rest =>
    match k.advance now run .plain with
    | some k' => some k'
    | none => advanceFirst k now rest

/-- The world after the next step of any run. -/
def advanceAny (k : Keeper) (now : String) : Option Keeper :=
  k.advanceFirst now (List.range k.runs.length)

/-- Lets runs go on, for at most so many steps. -/
def settleFor (now : String) : Nat → Keeper → Keeper
  | 0, k => k
  | fuel + 1, k =>
    match k.advanceAny now with
    | some k' => settleFor now fuel k'
    | none => k

/-- More than the number of steps that can be made without time passing. -/
def work (k : Keeper) : Nat :=
  4 * (k.dials.length + 2)
    + k.sockets.foldl (fun n s => n + s.queue.length + 4) 0
    + 4 * k.runs.length

/-- Lets all runs go on until each of them has to wait. -/
def settle (k : Keeper) (now : String) : Keeper := settleFor now k.work k

/-! ## Time -/

/-- When a run is due that waits for a time. -/
def dueOf? : Phase → Option Nat
  | .draining _ until_ => some until_
  | .sleeping until_ => some until_
  | _ => none

/-- The next time at which a run is due. -/
def nextDue? (k : Keeper) : Option Nat :=
  ((k.runs.filterMap fun r => dueOf? r.phase).filter (k.clock < ·)).min?

/-- Sets the clock to some time and lets all runs go on. -/
def wakeAt (k : Keeper) (now : String) (time : Nat) : Keeper :=
  { k with clock := time }.settle now

/-- Lets time pass up to some moment; `fuel` is at least the nanoseconds in between. -/
def passUntil (now : String) (moment : Nat) : Nat → Keeper → Keeper
  | 0, k => k.wakeAt now moment
  | fuel + 1, k =>
    match k.nextDue? with
    | some time =>
      if time < moment then passUntil now moment fuel (k.wakeAt now time)
      else k.wakeAt now moment
    | none => k.wakeAt now moment

/-- Lets some nanoseconds pass. -/
def wait (k : Keeper) (now : String) (nanos : Nat) : Keeper :=
  passUntil now (k.clock + nanos) nanos (k.settle now)

/-- Lets time pass until a run has ended, from one moment at which a run is due to the next; `fuel`
is at least the number of these moments. -/
def awaitEnd (now : String) (run : Nat) : Nat → Keeper → Keeper
  | 0, k => k
  | fuel + 1, k =>
    if k.hasEnded run then k
    else match k.nextDue? with
      | some time => awaitEnd now run fuel (k.wakeAt now time)
      | none => k

/-- Stops, and waits for the run that was under way to end, however long that takes; says whether a
connection was wanted. -/
def shutdown (k : Keeper) (now : String) : Bool × Keeper :=
  let (changed, k) := k.stop
  let (last, k) := k.takePrevious
  let k := k.settle now
  match last with
  | none => (changed, k)
  -- A run that is over does not go on without taking something up, so its work bounds the wait.
  | some run => (changed, awaitEnd now run k.work k)

end VoiceTicket.Keeper
