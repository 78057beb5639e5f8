/-
  One thing at a time.

  1. **Data** — a `Move` is the least that can happen: an action that is over at once, the second
     half of a shutdown, one step of one run under some choice, time that passes.

  2. **Program** — `Keeper.move` makes a move, `Keeper.after` a list of them.

  3. **Specification** — moves come in any order, so a list of them is any way in which callers,
     peers, runs and time can get in between one another.

  4. **Crux** — a shutdown is no move: it stops, takes the run that is to be waited for, and waits,
     and while it waits everything else goes on.  Its two halves are `stop` and `handOver`.
-/
import VoiceTicket.Keeper.Action

namespace VoiceTicket

/-- Whether an action is over at once; a shutdown and a wait take time. -/
def Action.isInstant : Action → Bool
  | .shutdown | .wait _ => false
  | _ => true

/-- The least that can happen. -/
inductive Move where
  | act (action : Action) (instant : action.isInstant = true)
  /-- The second half of a shutdown: takes the run that is to be waited for. -/
  | handOver
  /-- One step of a run, if it need not wait; the text is the time for events without one. -/
  | go (run : Nat) (choice : Choice) (now : String)
  | pass (nanos : Nat)

namespace Move

/-- Wants a connection. -/
abbrev start : Move := .act .start rfl

/-- Wants no connection any more; also the first half of a shutdown. -/
abbrev stop : Move := .act .stop rfl

/-- Nobody does it: a run goes on, or time passes. -/
def isIdle : Move → Bool
  | .go .. | .pass _ => true
  | .act .. | .handOver => false

/-- A call to the keeper, or half of one. -/
def isCall : Move → Bool
  | .act .start _ | .act .stop _ | .handOver => true
  | _ => false

/-- An entry of the log is made to fail. -/
def breaksLog : Move → Bool
  | .act (.failLogAfter _) _ => true
  | _ => false

/-- Something is made to fail: the next look at the base URL, or an entry of the log. -/
def breaks (m : Move) : Bool :=
  m.breaksLog || match m with
    | .act .failUrl _ => true
    | _ => false

theorem breaksLog_of_whole {m : Move} (whole : m.breaks = false) : m.breaksLog = false :=
  (Bool.or_eq_false_iff.1 whole).1

end Move

namespace Keeper

/-- The keeper after a move; a run that has to wait makes no step. -/
def move (k : Keeper) : Move → Keeper
  -- An action that is over at once never asks for the time.
  | .act action _ => (k.perform "" action).2
  | .handOver => k.takePrevious.2
  | .go run choice now => (k.advance now run choice).getD k
  | .pass nanos => { k with clock := k.clock + nanos }

/-- The keeper after some moves. -/
def after (k : Keeper) (moves : List Move) : Keeper := moves.foldl move k

@[simp] theorem after_nil (k : Keeper) : k.after [] = k := rfl

@[simp] theorem after_cons (k : Keeper) (m : Move) (moves : List Move) :
    k.after (m :: moves) = (k.move m).after moves := rfl

@[simp] theorem after_append (k : Keeper) (moves moves' : List Move) :
    k.after (moves ++ moves') = (k.after moves).after moves' := by
  simp [after]

@[simp] theorem move_start (k : Keeper) : k.move .start = k.start.2 := rfl

@[simp] theorem move_stop (k : Keeper) : k.move .stop = k.stop.2 := rfl

/-- Some moves can lead to it from a keeper that was never started. -/
def Reachable (k : Keeper) : Prop :=
  ∃ policy baseUrl moves, k = (Keeper.new policy baseUrl).after moves

theorem reachable_new (policy : Policy) (baseUrl : String) : (new policy baseUrl).Reachable :=
  ⟨policy, baseUrl, [], rfl⟩

theorem Reachable.after {k : Keeper} (h : k.Reachable) (moves : List Move) :
    (k.after moves).Reachable := by
  obtain ⟨policy, baseUrl, earlier, rfl⟩ := h
  exact ⟨policy, baseUrl, earlier ++ moves, by rw [after_append]⟩

end Keeper

end VoiceTicket
