/-
  The schedule is made of moves.

  1. **Data** — `Idles k k'`: runs go on and time passes, and nobody calls.

  2. **Specification** — to let all runs go on, to let time pass and to wait for a run is to idle;
     a shutdown stops, hands over and idles; every action is some moves.  So what holds whatever
     moves are made holds of the keeper that acts (`Reachable.act`).

  3. **Crux** — the clock never goes back: a run that is due is due after now, and what is waited
     for is not before now (`idles_passUntil`).
-/
import VoiceTicket.Proofs.Keeper.Frame

namespace VoiceTicket.Keeper

variable {k k' : Keeper}

/-! ## Idling -/

/-- Runs go on and time passes. -/
def Idles (k k' : Keeper) : Prop :=
  ∃ moves : List Move, (∀ m ∈ moves, m.isIdle = true) ∧ k' = k.after moves

theorem Idles.refl (k : Keeper) : Idles k k := ⟨[], nofun, rfl⟩

theorem Idles.trans {k₁ k₂ k₃ : Keeper} (h : Idles k₁ k₂) (h' : Idles k₂ k₃) : Idles k₁ k₃ := by
  obtain ⟨moves, idle, rfl⟩ := h
  obtain ⟨moves', idle', rfl⟩ := h'
  refine ⟨moves ++ moves', ?_, (after_append k₁ moves moves').symm⟩
  intro m mem
  rcases List.mem_append.1 mem with mem | mem
  · exact idle m mem
  · exact idle' m mem

theorem idles_move (k : Keeper) {m : Move} (idle : m.isIdle = true) : Idles k (k.move m) := by
  refine ⟨[m], ?_, rfl⟩
  intro m' mem
  rw [List.mem_singleton.1 mem]
  exact idle

/-! ## Until all wait -/

theorem move_of_advance {now : String} {run : Nat} {choice : Choice}
    (step : k.advance now run choice = some k') : k.move (.go run choice now) = k' := by
  show (k.advance now run choice).getD k = k'
  rw [step]
  rfl

theorem exists_run_of_advanceFirst {now : String} {runs : List Nat}
    (step : k.advanceFirst now runs = some k') : ∃ run, k.advance now run .plain = some k' := by
  induction runs with
  | nil => cases step
  | cons run rest ih =>
    unfold advanceFirst at step
    split at step
    · next k'' advanced =>
      cases step
      exact ⟨run, advanced⟩
    · exact ih step

/-- To let all runs go on is to let one run after the other make a step. -/
theorem exists_runs_settleFor (now : String) (fuel : Nat) (k : Keeper) :
    ∃ runs : List Nat, settleFor now fuel k = k.after (runs.map (.go · .plain now)) := by
  induction fuel generalizing k with
  | zero => exact ⟨[], rfl⟩
  | succ fuel ih =>
    unfold settleFor
    split
    · next k' step =>
      obtain ⟨run, advanced⟩ := exists_run_of_advanceFirst step
      obtain ⟨runs, rest⟩ := ih k'
      refine ⟨run :: runs, ?_⟩
      rw [rest, List.map_cons, after_cons, move_of_advance advanced]
    · exact ⟨[], rfl⟩

/-- A step of a run takes no time. -/
theorem clock_steps (k : Keeper) (now : String) (runs : List Nat) :
    (k.after (runs.map (.go · .plain now))).clock = k.clock := by
  induction runs generalizing k with
  | nil => rfl
  | cons run runs ih =>
    rw [List.map_cons, after_cons, ih]
    rcases move_go k run .plain now with same | ⟨r, h, turn⟩
    · rw [same]
    · obtain ⟨p, shift⟩ := turn.shift h
      exact shift.clock

theorem idles_settleFor (now : String) (fuel : Nat) (k : Keeper) :
    Idles k (settleFor now fuel k) ∧ (settleFor now fuel k).clock = k.clock := by
  obtain ⟨runs, steps⟩ := exists_runs_settleFor now fuel k
  rw [steps]
  refine ⟨⟨_, fun m mem => ?_, rfl⟩, clock_steps k now runs⟩
  obtain ⟨run, _, rfl⟩ := List.mem_map.1 mem
  rfl

theorem idles_settle (k : Keeper) (now : String) : Idles k (k.settle now) :=
  (idles_settleFor now k.work k).1

@[simp] theorem clock_settle (k : Keeper) (now : String) : (k.settle now).clock = k.clock :=
  (idles_settleFor now k.work k).2

/-! ## Time -/

theorem idles_wakeAt (now : String) {time : Nat} (later : k.clock ≤ time) :
    Idles k (k.wakeAt now time) := by
  have passed : Idles k { k with clock := time } := by
    have moved := idles_move k (m := .pass (time - k.clock)) rfl
    rw [show k.move (.pass (time - k.clock)) = { k with clock := time } by
      simp [move, Nat.add_sub_cancel' later]] at moved
    exact moved
  exact passed.trans (idles_settle _ now)

/-- Nobody is due before now. -/
theorem clock_lt_nextDue? {time : Nat} (due : k.nextDue? = some time) : k.clock < time := by
  have mem := List.min?_mem due
  have late := (List.mem_filter.1 mem).2
  simpa using late

theorem idles_passUntil (now : String) {moment : Nat} (fuel : Nat) (later : k.clock ≤ moment) :
    Idles k (passUntil now moment fuel k) := by
  induction fuel generalizing k with
  | zero => exact idles_wakeAt now later
  | succ fuel ih =>
    unfold passUntil
    split
    · next time due =>
      split
      · next early =>
        have woken := idles_wakeAt now (Nat.le_of_lt (clock_lt_nextDue? due))
        refine woken.trans (ih ?_)
        rw [wakeAt, clock_settle]
        exact Nat.le_of_lt early
      · exact idles_wakeAt now later
    · exact idles_wakeAt now later

theorem idles_wait (k : Keeper) (now : String) (nanos : Nat) : Idles k (k.wait now nanos) := by
  refine (idles_settle k now).trans (idles_passUntil now nanos ?_)
  rw [clock_settle]
  exact Nat.le_add_right _ _

theorem idles_awaitEnd (now : String) (run fuel : Nat) (k : Keeper) :
    Idles k (awaitEnd now run fuel k) := by
  induction fuel generalizing k with
  | zero => exact .refl k
  | succ fuel ih =>
    unfold awaitEnd
    split
    · exact .refl k
    · split
      · next time due =>
        have woken := idles_wakeAt now (Nat.le_of_lt (clock_lt_nextDue? due))
        exact woken.trans (ih (k.wakeAt now time))
      · exact .refl k

/-- **A shutdown is a stop, a handing over, and idling.** -/
theorem idles_shutdown (k : Keeper) (now : String) :
    Idles (k.stop.2.move .handOver) (k.shutdown now).2 := by
  show Idles k.stop.2.takePrevious.2 _
  simp only [shutdown, takePrevious]
  cases k.stop.2.previous with
  | none => exact idles_settle _ now
  | some run => exact (idles_settle _ now).trans (idles_awaitEnd now run _ _)

/-! ## Actions -/

/-- An action is some moves. -/
theorem exists_moves_perform (k : Keeper) (now : String) (action : Action) :
    ∃ moves, (k.perform now action).2 = k.after moves := by
  cases action with
  | shutdown =>
    obtain ⟨moves, _, same⟩ := idles_shutdown k now
    exact ⟨.stop :: .handOver :: moves, same⟩
  | wait nanos =>
    obtain ⟨moves, _, same⟩ := idles_wait k now nanos
    exact ⟨moves, same⟩
  | refuse faults => exact ⟨[.act (.refuse faults) rfl], rfl⟩
  | accept gated stubborn => exact ⟨[.act (.accept gated stubborn) rfl], rfl⟩
  | send socket event => exact ⟨[.act (.send socket event) rfl], rfl⟩
  | hangUp socket => exact ⟨[.act (.hangUp socket) rfl], rfl⟩
  | openGate socket => exact ⟨[.act (.openGate socket) rfl], rfl⟩
  | setBaseUrl url => exact ⟨[.act (.setBaseUrl url) rfl], rfl⟩
  | failUrl => exact ⟨[.act .failUrl rfl], rfl⟩
  | failLogAfter spared => exact ⟨[.act (.failLogAfter spared) rfl], rfl⟩
  | start => exact ⟨[.start], rfl⟩
  | stop => exact ⟨[.stop], rfl⟩
  | store operation => exact ⟨[.act (.store operation) rfl], rfl⟩

/-- **The keeper that acts makes moves**: whatever it does, it stays reachable. -/
theorem Reachable.act (reachable : k.Reachable) (now : String) (action : Action) :
    (k.act now action).2.Reachable := by
  obtain ⟨moves, done⟩ := exists_moves_perform k now action
  obtain ⟨moves', _, settled⟩ := idles_settle (k.perform now action).2 now
  show ((k.perform now action).2.settle now).Reachable
  rw [settled, done]
  exact (reachable.after moves).after moves'

theorem Reachable.actTogether (reachable : k.Reachable) (now : String) (actions : List Action) :
    (k.actTogether now actions).2.Reachable := by
  have performed : (k.performAll now actions).2.Reachable := by
    induction actions generalizing k with
    | nil => exact reachable
    | cons action rest ih =>
      obtain ⟨moves, done⟩ := exists_moves_perform k now action
      have performed : (k.perform now action).2.Reachable := by
        rw [done]
        exact reachable.after moves
      exact ih performed
  obtain ⟨moves, _, settled⟩ := idles_settle (k.performAll now actions).2 now
  show ((k.performAll now actions).2.settle now).Reachable
  rw [settled]
  exact performed.after moves

end VoiceTicket.Keeper
