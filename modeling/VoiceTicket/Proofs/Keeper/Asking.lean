/-
  Who asks for the base URL, and what comes of it.

  1. **Data** — an `Asking` is one look at the base URL: the run, whether it was the current one,
     and what it found.  `Keeper.askings` is what some moves amount to; `lastUrl` is the base URL by
     who has set it last.

  2. **Specification** — a run that has begun stays where it is about to ask until it has asked
     (`asked_or_fresh`); once all earlier runs have ended it has asked if all wait, and else asks
     within its next two steps (`Queued.asked_of_waits`, `Queued.asked_of_steps`).

  3. **The crux** — to be about to ask is not to ask: a run in its first phase may wait for an
     earlier one, and what it finds is settled only at the step in which it asks.
-/
import VoiceTicket.Proofs.Keeper.WindingDown

namespace VoiceTicket

/-- A run has asked for the base URL. -/
structure Asking where
  run : Nat
  /-- It was the current run. -/
  current : Bool
  /-- What it found, unless there was a failure. -/
  answer : Option String
deriving DecidableEq, Repr

/-- The run has not got beyond the point at which it asks first. -/
def Phase.isFresh : Phase → Bool
  | .waiting _ | .attempting => true
  | .connecting _ | .reading _ | .draining .. | .sleeping _ | .ended => false

/-- The base URL after some moves, by who has set it last. -/
def lastUrl (url : String) : List Move → String
  | [] => url
  | .act (.setBaseUrl url) _ :: moves => lastUrl url moves
  | _ :: moves => lastUrl url moves

namespace Keeper

variable {k k' : Keeper} {now : String} {run : Nat} {r : Run}

/-! ## Askings -/

/-- What is asked in a move. -/
def asking? (k : Keeper) : Move → Option Asking
  | .go run _ _ =>
    if k.phase? run = some .attempting then
      some ⟨run, k.isCurrent run, if k.urlFails then none else some k.baseUrl⟩
    else none
  | _ => none

/-- What is asked in some moves, in order. -/
def askings (k : Keeper) : List Move → List Asking
  | [] => []
  | m :: moves => (k.asking? m).toList ++ (k.move m).askings moves

theorem askings_append (k : Keeper) (moves moves' : List Move) :
    k.askings (moves ++ moves') = k.askings moves ++ (k.after moves).askings moves' := by
  induction moves generalizing k with
  | nil => rfl
  | cons m moves ih => simp [askings, ih]

theorem asking?_of_still {m : Move} (still : ∀ run choice now, m ≠ .go run choice now) :
    k.asking? m = none := by
  cases m with
  | go run choice now => exact absurd rfl (still run choice now)
  | act | handOver | pass => rfl

/-- A run has asked in some moves. -/
def Asked (k : Keeper) (run : Nat) (moves : List Move) : Prop := ∃ a ∈ k.askings moves, a.run = run

theorem Asked.append {moves : List Move} (asked : k.Asked run moves) (moves' : List Move) :
    k.Asked run (moves ++ moves') := by
  obtain ⟨a, mem, own⟩ := asked
  refine ⟨a, ?_, own⟩
  rw [askings_append]
  exact List.mem_append_left _ mem

theorem Asked.of_after (moves : List Move) {moves' : List Move}
    (asked : (k.after moves).Asked run moves') : k.Asked run (moves ++ moves') := by
  obtain ⟨a, mem, own⟩ := asked
  refine ⟨a, ?_, own⟩
  rw [askings_append]
  exact List.mem_append_right _ mem

/-- A run that is about to make an attempt asks in its next step. -/
theorem asked_of_attempting (phase : k.phase? run = some .attempting) (choice : Choice)
    (now : String) (moves : List Move) : k.Asked run (.go run choice now :: moves) := by
  refine ⟨⟨run, k.isCurrent run, if k.urlFails then none else some k.baseUrl⟩, ?_, rfl⟩
  simp [askings, asking?, phase]

/-! ## From the beginning of a run to its first asking -/

theorem move_go_of_run (h : k.runs[run]? = some r) (choice : Choice) (now : String) :
    k.move (.go run choice now) = ((k.effect? now run choice r).map (conclude run)).getD k := by
  show (k.advance now run choice).getD k = _
  rw [advance, h]

/-- A run that waits for another one goes on when that has ended. -/
theorem move_go_of_waiting {earlier : Nat} (phase : k.phase? run = some (.waiting earlier))
    (choice : Choice) (now : String) : k.move (.go run choice now) =
      if k.hasEnded earlier then k.setPhase run .attempting else k := by
  obtain ⟨r, h, phase⟩ := Option.map_eq_some_iff.1 phase
  simp only [move_go_of_run h, effect?, phase]
  split <;> rfl

/-- A run that has not asked yet still has that before it. -/
theorem asked_or_fresh {p : Phase} (phase : k.phase? run = some p) (fresh : p.isFresh = true)
    (moves : List Move) :
    k.Asked run moves ∨ ∃ p, (k.after moves).phase? run = some p ∧ p.isFresh = true := by
  induction moves generalizing k p with
  | nil => exact Or.inr ⟨p, phase, fresh⟩
  | cons m moves ih =>
    have later {q : Phase} (phase : (k.move m).phase? run = some q) (fresh : q.isFresh = true) :
        k.Asked run (m :: moves) ∨
          ∃ p, (k.after (m :: moves)).phase? run = some p ∧ p.isFresh = true := by
      rcases ih phase fresh with asked | still
      · exact Or.inl (Asked.of_after [m] asked)
      · exact Or.inr still
    have begun : run < k.runs.length := by
      rw [← Nat.not_le, ← phase?_eq_none_iff, phase]
      nofun
    rcases m.go_or_still with ⟨other, choice, now, rfl⟩ | still
    · by_cases own : run = other
      · subst own
        cases p with
        | attempting => exact Or.inl (asked_of_attempting phase choice now moves)
        | waiting earlier =>
          have step := move_go_of_waiting phase choice now
          split at step
          · exact later (by rw [step]; exact phase?_setPhase phase .attempting) rfl
          · exact later (by rw [step]; exact phase) fresh
        | connecting | reading | draining | sleeping | ended => cases fresh
      · refine later ?_ fresh
        rcases move_go k other choice now with same | ⟨r, h, turn⟩
        · rw [same, phase]
        · obtain ⟨q, shift⟩ := turn.shift h
          rw [shift.phase?_eq h, if_neg own, phase]
    · exact later (by rw [phase?_of_still still begun, phase]) fresh

/-- Where all wait a run has nothing before it that it could do. -/
theorem not_fresh_of_waits {p : Phase} (queued : Queued k) (waits : k.Waits)
    (phase : k.phase? run = some p) (ended : ∀ earlier < run, k.hasEnded earlier = true) :
    p.isFresh = false := by
  have before := queued.behind run
  rw [phase] at before
  rw [phase?, Option.map_eq_some_iff] at phase
  obtain ⟨r, h, rfl⟩ := phase
  have held := waits_iff.1 waits r (List.mem_of_getElem? h)
  unfold isHeld at held
  cases phase : r.phase with
  | attempting => simp [phase] at held
  | waiting earlier =>
    rw [phase] at before
    simp [phase, ended earlier (before earlier rfl)] at held
  | connecting | reading | draining | sleeping | ended => rfl

/-- **Once the earlier runs have ended a run has asked, if all wait.** -/
theorem Queued.asked_of_waits {p : Phase} {moves : List Move} (phase : k.phase? run = some p)
    (fresh : p.isFresh = true) (queued : Queued (k.after moves)) (waits : (k.after moves).Waits)
    (ended : ∀ earlier < run, (k.after moves).hasEnded earlier = true) : k.Asked run moves := by
  rcases asked_or_fresh phase fresh moves with asked | ⟨q, phase, fresh⟩
  · exact asked
  · rw [not_fresh_of_waits queued waits phase ended] at fresh
    cases fresh

/-- **Once the earlier runs have ended a run asks within its next two steps**, if it has not asked
before. -/
theorem Queued.asked_of_steps {p : Phase} {moves : List Move} (phase : k.phase? run = some p)
    (fresh : p.isFresh = true) (queued : Queued (k.after moves))
    (ended : ∀ earlier < run, (k.after moves).hasEnded earlier = true) (choice choice' : Choice)
    (now now' : String) :
    k.Asked run (moves ++ [.go run choice now, .go run choice' now']) := by
  rcases asked_or_fresh phase fresh moves with asked | ⟨q, phase, fresh⟩
  · exact asked.append _
  · apply Asked.of_after moves
    cases q with
    | attempting => exact asked_of_attempting phase choice now _
    | waiting earlier =>
      have resumed := move_go_of_waiting phase choice now
      rw [ended earlier (queued.behind run earlier phase), if_pos rfl] at resumed
      apply Asked.of_after [.go run choice now]
      refine asked_of_attempting ?_ choice' now' []
      show ((k.after moves).move (.go run choice now)).phase? run = _
      rw [resumed]
      exact phase?_setPhase phase .attempting
    | connecting | reading | draining | sleeping | ended => cases fresh

end Keeper

end VoiceTicket
