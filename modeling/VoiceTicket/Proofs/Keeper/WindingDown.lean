/-
  Runs that are over wind down.

  1. **Data** — `Winding k n time`: the first `n` runs were stopped at the time `time`, and none of
     them can go on for longer than a closed socket is waited for.

  2. **Specification** — `ended_of_stop`: where time passes only while all wait, and not beyond the
     moment at which a run is due, all runs from before a stop have ended once the grace period has
     passed and all wait; and time does not pass beyond it while one of them has not.

  3. **The crux (`Winding.turn`)** — a run that is over waits for the clock in one phase only, while
     it drains its socket, and it comes into that phase at the moment of the stop or before: in
     every other phase but one it goes on at once.  In that one it waits for an earlier run, so the
     argument goes by the number of the run (`Winding.all_ended`).
-/
import VoiceTicket.Proofs.Keeper.Retries

namespace VoiceTicket

namespace Phase

/-- What is left to a run in this phase that was stopped at some time. -/
def Leaves (time clock : Nat) : Phase → Prop
  | .connecting _ | .reading _ | .sleeping _ => clock ≤ time
  | .draining _ until_ => until_ ≤ time + Keeper.closeGrace
  | .waiting _ | .attempting | .ended => True

/-- The run has an attempt under way, or a socket that it reads. -/
def isEngaged : Phase → Bool
  | .connecting _ | .reading _ => true
  | .waiting _ | .attempting | .draining .. | .sleeping _ | .ended => false

/-- How a run may have come into a phase by a turn: from which phase, and whether as the current
run. -/
def Follows (clock : Nat) (current : Bool) : Phase → Phase → Prop
  | .draining socket until_, before =>
    before = .draining socket until_ ∨
      (until_ = clock + Keeper.closeGrace ∧ before.isEngaged = true)
  | .connecting _, _ | .reading _, _ | .sleeping _, _ => current = true
  | .waiting _, _ | .attempting, _ | .ended, _ => True

theorem Leaves.clock_le {time clock : Nat} {p : Phase} (leaves : p.Leaves time clock)
    (engaged : p.isEngaged = true) : clock ≤ time := by
  cases p with
  | connecting | reading => exact leaves
  | waiting | attempting | draining | sleeping | ended => cases engaged

/-- The run that is over has no more left to it after its turn than before. -/
theorem Leaves.follows {time clock : Nat} {before after : Phase} (leaves : before.Leaves time clock)
    (follows : after.Follows clock false before) : after.Leaves time clock := by
  cases after with
  | draining socket until_ =>
    rcases follows with rfl | ⟨rfl, engaged⟩
    · exact leaves
    · have le := leaves.clock_le engaged
      exact Nat.add_le_add_right le _
  | connecting | reading | sleeping => cases follows
  | waiting | attempting | ended => trivial

end Phase

namespace Keeper

variable {k k' : Keeper} {now : String} {run n time : Nat} {r : Run}

/-! ## Whatever happens -/

/-- What holds at first and is kept by every move of a reachable keeper holds whatever happens. -/
theorem Reachable.along {P : Keeper → Prop} (first : ∀ policy baseUrl, P (new policy baseUrl))
    (step : ∀ k m, k.Reachable → P k → P (k.move m)) (reachable : k.Reachable) : P k := by
  obtain ⟨policy, baseUrl, moves, rfl⟩ := reachable
  induction moves using List.reverseRecOn with
  | nil => exact first policy baseUrl
  | append_singleton moves m ih =>
    rw [after_append]
    exact step _ m ⟨policy, baseUrl, moves, rfl⟩ ih

/-- A run waits for one that was begun before it, and so will the next one. -/
structure Queued (k : Keeper) : Prop where
  behind : ∀ run earlier, k.phase? run = some (.waiting earlier) → earlier < run
  last : ∀ earlier, k.previous = some earlier → earlier < k.runs.length

theorem Queued.begun (queued : Queued k) : Queued k.begun := by
  constructor
  · intro run earlier phase
    rw [phase?_begun] at phase
    split at phase
    · next same =>
      rw [same]
      apply queued.last
      cases previous : k.previous with
      | none =>
        rw [previous] at phase
        cases phase
      | some first =>
        rw [previous] at phase
        cases phase
        rfl
    · exact queued.behind run earlier phase
  · intro earlier previous
    cases Option.some.inj (previous : some k.runs.length = some earlier)
    simp [Keeper.begun]

theorem Queued.of_phases (queued : Queued k) (same : ∀ i, k'.phase? i = k.phase? i)
    (previous : k'.previous = k.previous ∨ k'.previous = none) : Queued k' := by
  constructor
  · intro run earlier phase
    rw [same] at phase
    exact queued.behind run earlier phase
  · intro earlier before
    rw [length_of_phase? same]
    rcases previous with kept | none
    · exact queued.last earlier (kept ▸ before)
    · rw [none] at before
      cases before

theorem Reachable.queued (reachable : k.Reachable) : Queued k := by
  refine reachable.induct (fun _ _ => ⟨nofun, nofun⟩) ?_
  intro k m k' queued moved
  cases moved with
  | ignored | waits => exact queued
  | begun => exact queued.begun
  | stopped => exact queued.of_phases (phase_cancelLast k) (.inl rfl)
  | handedOver => exact queued.of_phases (fun _ => rfl) (.inr rfl)
  | turns h turn =>
    obtain ⟨p, shift⟩ := turn.shift h
    constructor
    · intro i earlier phase
      rw [shift.phase?_eq h] at phase
      split at phase
      · have awake := shift.awake
        rw [Option.some.inj phase] at awake
        cases awake
      · exact queued.behind i earlier phase
    · intro earlier before
      rw [shift.runs, List.length_modify]
      exact queued.last earlier (shift.previous ▸ before)
  | aside aside =>
    refine queued.of_phases (fun i => ?_) (.inl aside.previous)
    rw [phase?, phase?, aside.runs]

/-- A run that is not the current one is cancelled. -/
theorem Reachable.cancelled (reachable : k.Reachable) :
    ∀ run r, k.runs[run]? = some r → k.isCurrent run = false → r.cancelled = true := by
  refine reachable.along (P := fun k => ∀ run r, k.runs[run]? = some r →
    k.isCurrent run = false → r.cancelled = true) (fun _ _ => nofun) ?_
  intro k m reachable before run r found outdated
  have numbered := reachable.numbered
  have moved := moved k m
  generalize k.move m = k' at *
  cases moved with
  | ignored | waits | handedOver => exact before run r found outdated
  | begun unwanted =>
    rw [isCurrent_begun numbered] at outdated
    rcases run_begun found with ⟨_, found⟩ | ⟨same, _⟩
    · exact before run r found (isCurrent_of_unwanted unwanted run)
    · rw [same, beq_self_eq_true] at outdated
      cases outdated
  | stopped =>
    have found : (k.runs.modify (k.runs.length - 1) fun r => { r with cancelled := true })[run]?
        = some r := found
    rw [List.getElem?_modify, Option.map_eq_map, Option.map_eq_some_iff] at found
    obtain ⟨r₀, found₀, rfl⟩ := found
    split
    · rfl
    · next other =>
      -- Only the last run can have been the current one.
      refine before run r₀ found₀ ?_
      have lt := (List.getElem?_eq_some_iff.1 found₀).1
      rw [isCurrent, Link.isCurrent, Bool.and_eq_false_iff, beq_eq_false_iff_ne]
      exact Or.inr (by omega)
  | turns h turn =>
    obtain ⟨p, shift⟩ := turn.shift h
    rw [shift.isCurrent_eq] at outdated
    rw [shift.runs, List.getElem?_modify, Option.map_eq_map, Option.map_eq_some_iff] at found
    obtain ⟨r₀, found, rfl⟩ := found
    have cancelled := before run r₀ found outdated
    split <;> exact cancelled
  | aside aside =>
    rw [isCurrent, aside.link] at outdated
    exact before run r (aside.runs ▸ found) outdated

/-! ## Into which phase a turn leads -/

theorem Retry.phase_after (retry : Retry k run k') {p : Phase} (phase : k.phase? run = some p)
    (current : Bool) (before : Phase) (clock : Nat) (own : current = true) :
    ∃ p, k'.phase? run = some p ∧ p.Follows clock current before := by
  cases retry with
  | armed => exact ⟨_, phase?_setPhase (p := p) phase _, own⟩
  | overflow | failed => exact ⟨_, phase?_setPhase (p := p) phase _, trivial⟩

/-- **A run comes to drain a socket at the moment it lets go of it**, and goes on to new things as
the current run only. -/
theorem Turn.phase_after (h : k.runs[run]? = some r) (turn : Turn k now run r k') :
    ∃ p, k'.phase? run = some p ∧ p.Follows k.clock (k.isCurrent run) r.phase := by
  have here := phase?_of_run h
  have after {k₁ : Keeper} (rest : Alike k k₁) : k₁.phase? run = some r.phase := by
    rw [phase?, rest.runs]
    exact here
  cases turn with
  | resumed => exact ⟨_, phase?_setPhase here _, trivial⟩
  | unasked => exact ⟨_, phase?_setPhase (p := r.phase) here _, trivial⟩
  | quit => exact ⟨_, phase?_setPhase here _, trivial⟩
  | woken => exact ⟨_, phase?_setPhase (p := r.phase) here _, trivial⟩
  | dialled _ current => exact ⟨_, phase?_setPhase (p := r.phase) here _, current⟩
  | rejected _ current _ retry =>
    exact retry.phase_after (p := r.phase) here _ _ _ current
  | refused _ current retry =>
    exact retry.phase_after (p := r.phase) here _ _ _ current
  | registered _ current => exact ⟨_, phase?_setPhase (p := r.phase) here _, current⟩
  | late phase =>
    exact ⟨_, phase?_setPhase (p := r.phase) here _, .inr ⟨rfl, by rw [phase]; rfl⟩⟩
  | heard phase current read =>
    have stays := after (alike_readNext? read)
    rw [phase] at stays
    exact ⟨_, stays, current⟩
  | erred phase current read =>
    have stays := after (alike_readNext? read)
    rw [phase] at stays
    exact ⟨_, stays, current⟩
  | @closed _ _ k₁ _ _ current read retry =>
    have stays := after ((alike_readNext? read).trans (alike_release k₁))
    exact retry.phase_after (p := r.phase) stays _ _ _ current
  | @dropped _ _ k₁ _ _ read =>
    have stays := after ((alike_readNext? read).trans (alike_release k₁))
    exact ⟨_, phase?_setPhase stays _, trivial⟩
  | @left socket k₁ phase _ read =>
    have rest : Alike k k₁.release := by
      rcases read with rfl | ⟨e, read⟩
      · exact alike_release _
      · exact (alike_readNext? read).trans (alike_release k₁)
    have clock : k₁.release.clock = k.clock := rest.clock
    refine ⟨_, phase?_setPhase (after rest) _, .inr ⟨?_, by rw [phase]; rfl⟩⟩
    rw [clock]
  | skipped phase read =>
    have stays := after (alike_readNext? read)
    rw [phase] at stays ⊢
    exact ⟨_, stays, .inl rfl⟩
  | @drained _ _ k₁ _ read =>
    have rest : Alike k k₁ := by
      rcases read with ⟨rfl, _⟩ | ⟨reason, read⟩
      · exact .refl _
      · exact alike_readNext? read
    exact ⟨_, phase?_setPhase (after rest) _, trivial⟩
  | failed _ _ _ rest => exact ⟨_, phase?_setPhase (after rest) _, trivial⟩

/-- A socket that is drained is waited for no longer than the grace period. -/
theorem Reachable.draining_le (reachable : k.Reachable) :
    ∀ run socket until_, k.phase? run = some (.draining socket until_) →
      until_ ≤ k.clock + closeGrace := by
  refine reachable.along (P := fun k => ∀ run socket until_,
    k.phase? run = some (.draining socket until_) → until_ ≤ k.clock + closeGrace)
    (fun _ _ => nofun) ?_
  intro k m _ before run socket until_ drains
  have later : k.clock + closeGrace ≤ (k.move m).clock + closeGrace :=
    Nat.add_le_add_right (clock_le_move k m) _
  refine Nat.le_trans ?_ later
  have moved := moved k m
  generalize k.move m = k' at *
  cases moved with
  | ignored | waits | handedOver => exact before run socket until_ drains
  | begun =>
    rw [phase?_begun] at drains
    split at drains
    · cases first : k.previous with
      | none => rw [first] at drains; cases drains
      | some earlier => rw [first] at drains; cases drains
    · exact before run socket until_ drains
  | stopped =>
    have drains : (k.cancelLast.runs[run]?).map Run.phase = _ := drains
    rw [phase_cancelLast] at drains
    exact before run socket until_ drains
  | @turns own choice now r k' h turn =>
    obtain ⟨p, shift⟩ := turn.shift h
    obtain ⟨q, after, follows⟩ := turn.phase_after h
    by_cases same : run = own
    · subst same
      rw [drains] at after
      cases after
      rcases follows with phase | ⟨rfl, _⟩
      · exact before run socket until_ (by rw [phase?_of_run h, phase])
      · exact Nat.le_refl _
    · rw [shift.phase?_eq h, if_neg same] at drains
      exact before run socket until_ drains
  | aside aside =>
    rw [phase?, aside.runs] at drains
    exact before run socket until_ drains

/-! ## Runs that were stopped -/

/-- What has ended stays so. -/
theorem Moved.hasEnded {m : Move} (moved : Moved k m k') (lt : run < k.runs.length)
    (ended : k.hasEnded run = true) : k'.hasEnded run = true := by
  cases moved with
  | ignored | waits | handedOver => exact ended
  | begun => rw [hasEnded_begun lt, ended]
  | stopped =>
    rw [hasEnded_of_phase?, ended]
    exact phase_cancelLast k run
  | turns h turn => exact turn.hasEnded h ended
  | aside aside =>
    rw [hasEnded_of_phase?, ended]
    rw [phase?, phase?, aside.runs]

theorem Reachable.length_le_move (reachable : k.Reachable) (m : Move) :
    k.runs.length ≤ (k.move m).runs.length := by
  have later : (k.move m).Reachable := reachable.after [m]
  rw [← reachable.numbered, ← later.numbered]
  exact number_le_after k [m]

theorem Reachable.hasEnded_after (reachable : k.Reachable) (lt : run < k.runs.length)
    (ended : k.hasEnded run = true) (moves : List Move) : (k.after moves).hasEnded run = true := by
  induction moves generalizing k with
  | nil => exact ended
  | cons m moves ih =>
    have still := Nat.lt_of_lt_of_le lt (reachable.length_le_move m)
    exact ih (reachable.after [m]) still ((moved k m).hasEnded lt ended)

/-- The first `n` runs were stopped at some time, and have little left to do. -/
structure Winding (k : Keeper) (n time : Nat) : Prop where
  begun : n ≤ k.runs.length
  retired : ∀ run < n, Retired k run
  leaves : ∀ run p, run < n → k.phase? run = some p → p.Leaves time k.clock

/-- At the moment of a stop. -/
theorem Reachable.winding (reachable : k.Reachable) : Winding k.stop.2 k.runs.length k.clock := by
  have stopped : k.stop.2.Reachable := reachable.after [.stop]
  have clock : k.stop.2.clock = k.clock := clock_move k .stop
  refine ⟨?_, ?_, ?_⟩
  · rw [stop_eq]
    simp [Keeper.stopped, cancelLast]
  · intro run lt
    exact Halts.stop.retired (by rw [reachable.numbered]; exact lt)
  · intro run p lt phase
    cases p with
    | connecting | reading | sleeping => exact Nat.le_of_eq clock
    | draining socket until_ =>
      have le := stopped.draining_le run socket until_ phase
      rw [clock] at le
      exact le
    | waiting | attempting | ended => trivial

theorem Winding.turn (winding : Winding k n time) (h : k.runs[run]? = some r)
    (turn : Turn k now run r k') (i : Nat) {p : Phase} (lt : i < n)
    (phase : k'.phase? i = some p) : p.Leaves time k'.clock := by
  obtain ⟨q, shift⟩ := turn.shift h
  rw [shift.clock]
  by_cases own : i = run
  · subst own
    obtain ⟨p', after, follows⟩ := turn.phase_after h
    rw [phase] at after
    cases after
    rw [(winding.retired i lt).outdated] at follows
    have before := winding.leaves i r.phase lt (phase?_of_run h)
    exact before.follows follows
  · rw [shift.phase?_eq h, if_neg own] at phase
    exact winding.leaves i p lt phase

/-- A run that was stopped and has to wait waits for an earlier one or for its socket. -/
theorem cases_of_held (reachable : k.Reachable) (h : k.runs[run]? = some r)
    (outdated : k.isCurrent run = false) (held : k.isHeld r = true) :
    r.phase = .ended ∨ (∃ earlier, r.phase = .waiting earlier ∧ k.hasEnded earlier = false) ∨
      ∃ socket until_, r.phase = .draining socket until_ ∧ k.clock < until_ := by
  have cancelled := reachable.cancelled run r h outdated
  unfold isHeld at held
  cases phase : r.phase with
  | waiting earlier =>
    simp only [phase, Bool.not_eq_true'] at held
    exact Or.inr (Or.inl ⟨earlier, rfl, held⟩)
  | draining socket until_ =>
    simp only [phase, Bool.and_eq_true, decide_eq_true_eq] at held
    exact Or.inr (Or.inr ⟨socket, until_, rfl, held.2⟩)
  | ended => exact Or.inl rfl
  | attempting => simp [phase] at held
  | connecting | reading | sleeping => simp [phase, cancelled] at held

/-- While all wait and one of these runs has not ended, one of them drains its socket. -/
theorem Winding.exists_draining (winding : Winding k n time) (reachable : k.Reachable)
    (waits : k.Waits) (run : Nat) (lt : run < n) (going : k.hasEnded run = false) :
    ∃ r ∈ k.runs, ∃ socket until_, r.phase = .draining socket until_ ∧ k.clock < until_ ∧
      until_ ≤ time + closeGrace := by
  -- A run waits for one with a lower number only.
  induction run using Nat.strongRecOn with
  | ind run ih =>
    obtain ⟨r, h⟩ : ∃ r, k.runs[run]? = some r :=
      ⟨_, List.getElem?_eq_getElem (lt_of_going going)⟩
    have mem := List.mem_of_getElem? h
    have outdated := (winding.retired run lt).outdated
    rcases cases_of_held reachable h outdated (waits_iff.1 waits r mem) with
      phase | ⟨earlier, phase, notYet⟩ | ⟨socket, until_, phase, later⟩
    · have ended : k.hasEnded run = true :=
        hasEnded_iff.2 (.inr (by rw [phase?_of_run h, phase]))
      rw [ended] at going
      cases going
    · have before := reachable.queued.behind run earlier (by rw [phase?_of_run h, phase])
      exact ih earlier before (Nat.lt_trans before lt) notYet
    · have leaves := winding.leaves run r.phase lt (phase?_of_run h)
      rw [phase] at leaves
      exact ⟨r, mem, socket, until_, phase, later, leaves⟩

/-- **Once the grace period has passed and all wait, the runs that were stopped have ended.** -/
theorem Winding.all_ended (winding : Winding k n time) (reachable : k.Reachable) (waits : k.Waits)
    (late : time + closeGrace ≤ k.clock) : ∀ run < n, k.hasEnded run = true := by
  intro run lt
  cases ended : k.hasEnded run with
  | true => rfl
  | false =>
    obtain ⟨r, _, socket, until_, _, later, le⟩ :=
      winding.exists_draining reachable waits run lt ended
    omega

/-- Time that passes while one of these runs has not ended passes within the grace period. -/
theorem Winding.pass_le (winding : Winding k n time) (reachable : k.Reachable) (waits : k.Waits)
    {nanos : Nat} (early : ∀ due, k.nextDue? = some due → k.clock + nanos ≤ due)
    (lt : run < n) (going : k.hasEnded run = false) : k.clock + nanos ≤ time + closeGrace := by
  obtain ⟨r, mem, socket, until_, phase, later, le⟩ :=
    winding.exists_draining reachable waits run lt going
  obtain ⟨due, next, first⟩ := exists_nextDue? mem (by rw [phase]; rfl) later
  have upTo := early due next
  omega

/-- The phases of runs change by their turns only. -/
theorem phase?_of_still {m : Move} (still : ∀ run choice now, m ≠ .go run choice now)
    (lt : run < k.runs.length) : (k.move m).phase? run = k.phase? run := by
  have moved := moved k m
  generalize k.move m = k' at *
  cases moved with
  | ignored | handedOver => rfl
  | begun => rw [phase?_begun, if_neg (Nat.ne_of_lt lt)]
  | stopped => exact phase_cancelLast k run
  | waits | turns => exact absurd rfl (still _ _ _)
  | aside aside => rw [phase?, phase?, aside.runs]

/-- Time that passes while all wait takes nothing from what is left to a run. -/
theorem Winding.leaves_pass (winding : Winding k n time) (reachable : k.Reachable)
    (waits : k.Waits) (clock : Nat) {p : Phase} (lt : run < n) (phase : k.phase? run = some p) :
    p.Leaves time clock := by
  rw [phase?, Option.map_eq_some_iff] at phase
  obtain ⟨r, h, rfl⟩ := phase
  have leaves := winding.leaves run r.phase lt (phase?_of_run h)
  have held := waits_iff.1 waits r (List.mem_of_getElem? h)
  rcases cases_of_held reachable h (winding.retired run lt).outdated held with
    phase | ⟨earlier, phase, _⟩ | ⟨socket, until_, phase, _⟩
  all_goals rw [phase] at leaves ⊢
  · trivial
  · trivial
  · exact leaves

/-- **Runs that were stopped wind down**, whatever happens, if time passes while all wait only. -/
theorem Winding.move (winding : Winding k n time) (reachable : k.Reachable) {m : Move}
    (punctual : k.isPunctual [m] = true) : Winding (k.move m) n time := by
  refine ⟨Nat.le_trans winding.begun (reachable.length_le_move m), ?_, ?_⟩
  · intro run lt
    exact (winding.retired run lt).moved (moved k m)
  · intro run p lt phase
    rcases m.go_or_still with ⟨own, choice, now, rfl⟩ | still
    · rcases move_go k own choice now with same | ⟨r, h, turn⟩
      · rw [same] at phase ⊢
        exact winding.leaves run p lt phase
      · exact winding.turn h turn run lt phase
    · rw [phase?_of_still still (Nat.lt_of_lt_of_le lt winding.begun)] at phase
      cases m with
      | pass nanos =>
        simp only [isPunctual, Bool.and_true, Bool.and_eq_true, decide_eq_true_eq] at punctual
        exact winding.leaves_pass reachable punctual.1 _ lt phase
      | go own choice now => exact absurd rfl (still own choice now)
      | act | handOver =>
        rw [clock_move]
        exact winding.leaves run p lt phase

/-- Until the runs that were stopped have ended, time stays within the grace period. -/
theorem Winding.after (winding : Winding k n time) (reachable : k.Reachable) {moves : List Move}
    (punctual : k.isPunctual moves = true) :
    Winding (k.after moves) n time ∧
      (k.clock ≤ time + closeGrace → ∀ run < n, (k.after moves).hasEnded run = false →
        (k.after moves).clock ≤ time + closeGrace) := by
  induction moves generalizing k with
  | nil => exact ⟨winding, fun within _ _ _ => within⟩
  | cons m moves ih =>
    have first : k.isPunctual [m] = true ∧ (k.move m).isPunctual moves = true := by
      rw [← Bool.and_eq_true]
      exact (isPunctual_append k [m] moves).symm.trans punctual
    have step := winding.move reachable first.1
    obtain ⟨whole, bound⟩ := ih step (reachable.after [m]) first.2
    refine ⟨whole, fun within run lt going => ?_⟩
    refine bound ?_ run lt going
    rw [clock_move]
    cases m with
    | pass nanos =>
      -- What goes on after all this went on before time has passed.
      have before : k.hasEnded run = false := by
        cases ended : k.hasEnded run with
        | false => rfl
        | true =>
          have lt := Nat.lt_of_lt_of_le lt winding.begun
          rw [reachable.hasEnded_after lt ended (.pass nanos :: moves)] at going
          cases going
      simp only [isPunctual, Bool.and_true, Bool.and_eq_true, decide_eq_true_eq] at first
      obtain ⟨⟨waits, early⟩, _⟩ := first
      refine winding.pass_le reachable waits (fun due next => ?_) lt before
      rw [next] at early
      simpa using early
    | act | handOver | go => exact within

/-- **What was stopped ends within the grace period.** -/
theorem Reachable.ended_of_stop (reachable : k.Reachable) {moves : List Move}
    (punctual : k.stop.2.isPunctual moves = true) :
    ((k.stop.2.after moves).Waits → k.clock + closeGrace ≤ (k.stop.2.after moves).clock →
      ∀ run < k.runs.length, (k.stop.2.after moves).hasEnded run = true) ∧
    (∀ run < k.runs.length, (k.stop.2.after moves).hasEnded run = false →
      (k.stop.2.after moves).clock ≤ k.clock + closeGrace) := by
  have stopped : k.stop.2.Reachable := reachable.after [.stop]
  obtain ⟨winding, bound⟩ := reachable.winding.after stopped punctual
  constructor
  · intro waits late
    exact winding.all_ended (stopped.after moves) waits late
  · apply bound
    rw [show k.stop.2.clock = k.clock from clock_move k .stop]
    exact Nat.le_add_right _ _

end Keeper

end VoiceTicket
