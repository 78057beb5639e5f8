/-
  Every failure arms one retry.

  1. **Data** — a history of the current run is counted: its attempts, its failures, the failures
     since a socket has opened last.  `History.due?` is when the next attempt is due by the policy.

  2. **Specification** — where nothing is made to fail and no jitter is added, the bookkeeping is
     what the history counts to, and no attempt comes before it is due; where time does not pass
     beyond the moment at which a run is due, every attempt comes just then.

  3. **Crux** — while a retry is armed there are as many attempts as failures, and between an
     attempt and its end there is one more (`Keeper.Stands`); an error that the socket reports is
     no failure, since it leaves the run where it is.
-/
import VoiceTicket.Proofs.Keeper.Deeds

namespace VoiceTicket

/-! ## Delays without jitter -/

/-- The product with a zero is a zero, of one sign or the other. -/
theorem Binary64.mul_of_zero {x y : Binary64} (nothing : y.ratio.1 = 0) :
    x.mul y = zero (x.negative != y.negative) := by
  simp only [mul, nothing, Nat.mul_zero, ofRatio, if_true]

theorem Duration.ofSeconds?_zero (sign : Bool) : ofSeconds? (.zero sign) = some zero := by
  cases sign <;> decide +kernel

theorem Duration.share?_zero (fraction : Binary64) : zero.share? fraction = some zero := by
  have nothing : zero.seconds.ratio.1 = 0 := by decide +kernel
  rw [share?, Binary64.mul_of_zero nothing, ofSeconds?_zero]

theorem Policy.delay?_of_unjittered {policy : Policy} (unjittered : policy.jitter = .zero)
    (attempt : Nat) (share : Binary64) :
    policy.delay? attempt share = some (policy.backoff attempt) := by
  have sum : (policy.backoff attempt).add? .zero = some (policy.backoff attempt) := by
    have fits := (policy.backoff attempt).nanos_lt
    simp [Duration.add?, Duration.ofNanos?, Duration.zero, fits]
  simp only [delay?, unjittered, Duration.share?_zero]
  exact sum

/-! ## Counting -/

namespace History

variable {policy : Policy} {past : History} {x : Record}

/-- What is told of one run. -/
def of (past : History) (run : Nat) : History := past.filter (·.run == run)

/-- How many attempts were begun. -/
def attempts (past : History) : Nat := past.countP (·.deed.isAttempt)

/-- How many attempts have failed, and how many sockets have closed. -/
def failures (past : History) : Nat := past.countP (·.deed.isFailure)

/-- How many failures there were since a socket has opened last. -/
def inARow (past : History) : Nat :=
  (past.reverse.takeWhile (!·.deed.isOpening)).countP (·.deed.isFailure)

/-- When the last failure was. -/
def lastFailure? (past : History) : Option Nat :=
  (past.reverse.find? (·.deed.isFailure)).map Record.clock

/-- When the next attempt is due. -/
def due? (past : History) (policy : Policy) : Option Nat :=
  past.lastFailure?.map fun failed =>
    failed + (policy.backoff (min past.inARow Link.maxAttempt)).nanos

/-- Each attempt but the first stands in a relation to the time at which it was due. -/
def Spaced (R : Nat → Nat → Prop) (policy : Policy) (past : History) : Prop :=
  ∀ earlier x later, past = earlier ++ x :: later → x.deed.isAttempt = true →
    0 < attempts earlier → ∃ due, due? earlier policy = some due ∧ R due x.clock

@[simp] theorem attempts_concat :
    attempts (past ++ [x]) = past.attempts + if x.deed.isAttempt then 1 else 0 := by
  simp [attempts, List.countP_append, List.countP_singleton]

@[simp] theorem failures_concat :
    failures (past ++ [x]) = past.failures + if x.deed.isFailure then 1 else 0 := by
  simp [failures, List.countP_append, List.countP_singleton]

theorem inARow_concat :
    inARow (past ++ [x]) =
      if x.deed.isOpening then 0 else past.inARow + if x.deed.isFailure then 1 else 0 := by
  cases opening : x.deed.isOpening <;>
    simp [inARow, opening, List.countP_cons]

theorem lastFailure?_concat :
    lastFailure? (past ++ [x]) = if x.deed.isFailure then some x.clock else past.lastFailure? := by
  cases failure : x.deed.isFailure <;> simp [lastFailure?, failure]

/-- Once there was a failure the next attempt has a time. -/
theorem exists_due (policy : Policy) (failed : 0 < past.failures) :
    ∃ due, past.due? policy = some due := by
  obtain ⟨x, mem, failure⟩ := List.countP_pos_iff.1 failed
  cases found : past.reverse.find? (·.deed.isFailure) with
  | none =>
    have := List.find?_eq_none.1 found x (List.mem_reverse.2 mem)
    exact absurd failure this
  | some last => exact ⟨_, by simp only [due?, lastFailure?, found]; rfl⟩

theorem spaced_nil (R : Nat → Nat → Prop) (policy : Policy) : Spaced R policy [] := by
  intro earlier x later split
  simp at split

/-- One attempt more has to be looked at. -/
theorem Spaced.concat {R : Nat → Nat → Prop} (spaced : Spaced R policy past)
    (last : x.deed.isAttempt = true → 0 < past.attempts →
      ∃ due, past.due? policy = some due ∧ R due x.clock) : Spaced R policy (past ++ [x]) := by
  intro earlier y later split isAttempt begun
  rcases concat_eq_append_cons split with ⟨rfl, rfl, rfl⟩ | ⟨later, rfl, same⟩
  · exact last isAttempt begun
  · exact spaced earlier y later same isAttempt begun

/-- What is no attempt has no time to keep to. -/
theorem Spaced.concat_other {R : Nat → Nat → Prop} (spaced : Spaced R policy past)
    (unbegun : x.deed.isAttempt = false) : Spaced R policy (past ++ [x]) := by
  refine spaced.concat fun isAttempt => ?_
  rw [unbegun] at isAttempt
  cases isAttempt

theorem of_append (past later : History) (run : Nat) :
    of (past ++ later) run = past.of run ++ of later run := by
  simp [of]

theorem of_eq_self {run : Nat} (own : ∀ x ∈ past, x.run = run) : past.of run = past := by
  rw [of, List.filter_eq_self]
  intro x mem
  rw [own x mem, beq_self_eq_true]

theorem of_eq_nil {run : Nat} (other : ∀ x ∈ past, x.run ≠ run) : past.of run = [] := by
  rw [of, List.filter_eq_nil_iff]
  intro x mem
  simpa using other x mem

end History

namespace Keeper

variable {k k' : Keeper} {now : String} {run : Nat} {past : History}

/-! ## The bookkeeping and the history -/

/-- How the current run stands with its attempts in a phase. -/
def Stands (k : Keeper) (past : History) : Phase → Prop
  | .waiting _ => past = []
  | .attempting =>
    past.attempts = past.failures ∧ ∀ due, past.due? k.policy = some due → due ≤ k.clock
  | .connecting _ | .reading _ => past.attempts = past.failures + 1
  | .sleeping until_ =>
    past.attempts = past.failures ∧ k.link.pending = some (k.policy.backoff k.link.attempt) ∧
      past.due? k.policy = some until_
  | .draining .. | .ended => False

/-- The bookkeeping is what the history of the current run counts to. -/
structure Tallied (k : Keeper) (run : Nat) (past : History) : Prop where
  scheduled : k.link.scheduled = past.failures
  attempt : k.link.attempt = min past.inARow Link.maxAttempt
  stands : ∃ p, k.phase? run = some p ∧ k.Stands past p
  spaced : past.Spaced (· ≤ ·) k.policy

theorem Tallied.stands_of (tallied : Tallied k run past) {p : Phase}
    (phase : k.phase? run = some p) : k.Stands past p := by
  obtain ⟨q, phase', stands⟩ := tallied.stands
  rw [phase] at phase'
  cases phase'
  exact stands

/-- A failure arms a retry. -/
theorem Retry.tallied {x : Record} (retry : Retry k run k') (heeded : k.logFails = none)
    (unjittered : k.policy.jitter = .zero) {p : Phase} (phase : k.phase? run = some p)
    (scheduled : k.link.scheduled = past.failures)
    (attempt : k.link.attempt = min past.inARow Link.maxAttempt)
    (failure : x.deed.isFailure = true) (clock : x.clock = k.clock)
    (attempts : History.attempts (past ++ [x]) = past.failures + 1)
    (spaced : History.Spaced (· ≤ ·) k.policy (past ++ [x])) : Tallied k' run (past ++ [x]) := by
  have closed : x.deed.isOpening = false := by
    cases opens : x.deed <;> simp_all [Deed.isOpening, Deed.isFailure]
  have row : History.inARow (past ++ [x]) = past.inARow + 1 := by
    simp [History.inARow_concat, closed, failure]
  have failed : k.link.failed.attempt = min (History.inARow (past ++ [x])) Link.maxAttempt := by
    show min (k.link.attempt + 1) Link.maxAttempt = _
    rw [attempt, row]
    generalize Link.maxAttempt = top
    omega
  rcases retry.cases_of_heeded heeded with ⟨share, delay, delayed, rfl⟩ | ⟨share, none, _⟩
  · rw [Policy.delay?_of_unjittered unjittered] at delayed
    cases delayed
    refine ⟨?_, failed, ⟨_, phase?_setPhase (p := p) phase _, ?_, rfl, ?_⟩, spaced⟩
    · show k.link.scheduled + 1 = _
      simp [failure, scheduled]
    · simp [failure, attempts]
    · show (History.lastFailure? (past ++ [x])).map _ = some (k.clock + _)
      rw [History.lastFailure?_concat, if_pos failure, Option.map_some, clock, ← failed]
      rfl
  · rw [Policy.delay?_of_unjittered unjittered] at none
    cases none

/-- An event that leaves the socket open is not counted. -/
theorem Tallied.reading {socket : Nat} {x : Record} (tallied : Tallied k run past)
    (phase : k.phase? run = some (.reading socket)) (rest : Alike k k')
    (scheduled : k'.link.scheduled = k.link.scheduled) (attempt : k'.link.attempt = k.link.attempt)
    (ongoing : x.deed.isAttempt = false ∧ x.deed.isFailure = false ∧ x.deed.isOpening = false) :
    Tallied k' run (past ++ [x]) := by
  obtain ⟨unbegun, unfailed, unopened⟩ := ongoing
  have odd : past.attempts = past.failures + 1 := tallied.stands_of phase
  refine ⟨?_, ?_, ⟨.reading socket, ?_, ?_⟩, ?_⟩
  · simp [scheduled, tallied.scheduled, unfailed]
  · simp [attempt, tallied.attempt, History.inARow_concat, unfailed, unopened]
  · rw [phase?, rest.runs]
    exact phase
  · show History.attempts _ = History.failures _ + 1
    simp [unbegun, unfailed, odd]
  · rw [rest.policy]
    exact tallied.spaced.concat_other unbegun

/-- A turn of the current run keeps the tally. -/
theorem Tallied.goes {deed : Option Deed} (tallied : Tallied k run past) (intact : Intact k)
    (unjittered : k.policy.jitter = .zero) (goes : Goes k now run deed k') :
    Tallied k' run (past ++ (deed.map (⟨run, k.clock, now, ·⟩)).toList) := by
  have ⟨scheduled, attempt, _, spaced⟩ := tallied
  have ready {deed : Deed} (phase : k.phase? run = some .attempting) :
      History.Spaced (· ≤ ·) k.policy (past ++ [⟨run, k.clock, now, deed⟩]) := by
    obtain ⟨even, ready⟩ := tallied.stands_of phase
    refine spaced.concat fun _ begun => ?_
    obtain ⟨due, time⟩ := History.exists_due k.policy (even ▸ begun)
    exact ⟨due, time, ready due time⟩
  cases goes with
  | resumed phase =>
    have nothing : past = [] := tallied.stands_of phase
    subst nothing
    exact ⟨scheduled, attempt, ⟨_, phase?_setPhase phase _, rfl, nofun⟩, spaced⟩
  | dialled phase =>
    have even := (tallied.stands_of phase).1
    refine ⟨?_, ?_, ⟨_, phase?_setPhase (p := .attempting) phase _, ?_⟩, ready phase⟩
    · show k.link.scheduled = _
      simp [Deed.isFailure, scheduled]
    · show k.link.attempt = _
      simp [History.inARow_concat, Deed.isOpening, Deed.isFailure, attempt]
    · show History.attempts _ = History.failures _ + 1
      simp [Deed.isAttempt, Deed.isFailure, even]
  | rejected phase _ retry =>
    have even := (tallied.stands_of phase).1
    refine retry.tallied (heeded_told intact.heeded) unjittered (p := .attempting) phase scheduled
      attempt rfl rfl ?_ (ready phase)
    simp [Deed.isAttempt, even]
  | refused phase retry =>
    have odd : past.attempts = past.failures + 1 := tallied.stands_of phase
    refine retry.tallied (heeded_down intact.heeded) unjittered (p := .connecting _) phase scheduled
      attempt rfl rfl ?_ (spaced.concat_other rfl)
    simp [Deed.isAttempt, odd]
  | registered phase =>
    have odd : past.attempts = past.failures + 1 := tallied.stands_of phase
    refine ⟨?_, ?_, ⟨_, phase?_setPhase (p := .connecting _) phase _, ?_⟩, spaced.concat_other rfl⟩
    · show k.link.scheduled = _
      simp [Deed.isFailure, scheduled]
    · show 0 = _
      simp [History.inARow_concat, Deed.isOpening]
    · show History.attempts _ = History.failures _ + 1
      simp [Deed.isAttempt, Deed.isFailure, odd]
  | @heard socket text k₁ phase read =>
    have link := link_readNext? read
    refine tallied.reading phase ((alike_readNext? read).trans ?_) ?_ ?_ ⟨rfl, rfl, rfl⟩
    · exact ⟨rfl, rfl, rfl, rfl, rfl, rfl, rfl, rfl, rfl, rfl⟩
    · show k₁.link.scheduled = k.link.scheduled
      rw [link]
    · show k₁.link.attempt = k.link.attempt
      rw [link]
  | @erred socket message k₁ phase read =>
    have link := link_readNext? read
    refine tallied.reading phase ((alike_readNext? read).trans (alike_down _ _ _)) ?_ ?_
      ⟨rfl, rfl, rfl⟩
    · show k₁.link.scheduled = k.link.scheduled
      rw [link]
    · show k₁.link.attempt = k.link.attempt
      rw [link]
  | @closed socket reason k₁ _ phase read retry =>
    have odd : past.attempts = past.failures + 1 := tallied.stands_of phase
    have rest : Alike k (k₁.release.down .warn (closedMessage reason)) :=
      ((alike_readNext? read).trans (alike_release k₁)).trans (alike_down _ _ _)
    have link : k₁.release.link = k.link := (link_release k₁).trans (link_readNext? read)
    have after := (intact.readNext? read).release
    refine retry.tallied (heeded_down after.heeded) ?_ (p := .reading socket) ?_ ?_ ?_
      rfl rest.clock.symm ?_ ?_
    · rw [rest.policy, unjittered]
    · rw [phase?, rest.runs]
      exact phase
    · exact (congrArg Link.scheduled link).trans scheduled
    · exact (congrArg Link.attempt link).trans attempt
    · simp [Deed.isAttempt, odd]
    · rw [rest.policy]
      exact spaced.concat_other rfl
  | @woken until_ phase due =>
    obtain ⟨even, _, time⟩ := tallied.stands_of phase
    rw [Option.map_none, Option.toList_none, List.append_nil]
    refine ⟨scheduled, attempt, ⟨_, phase?_setPhase (p := .sleeping _) phase _, even, ?_⟩, spaced⟩
    intro due' time'
    have same := time.symm.trans time'
    cases same
    exact due

/-! ## Every move -/

/-- Who is told of was the current run. -/
theorem run_of_record? {m : Move} {x : Record} (told : k.record? m = some x) :
    x.run + 1 = k.link.run := by
  cases m with
  | go run choice now =>
    simp only [record?] at told
    split at told
    · next current =>
      rw [Option.map_eq_some_iff] at told
      obtain ⟨deed, _, rfl⟩ := told
      simp only [isCurrent, Link.isCurrent, Bool.and_eq_true, beq_iff_eq] at current
      exact current.2.symm
    · cases told
  | _ => cases told

/-- Nothing is told of a run that is to begin yet. -/
theorem run_lt_of_records (k : Keeper) (moves : List Move) :
    ∀ x ∈ k.records moves, x.run < (k.after moves).link.run := by
  induction moves generalizing k with
  | nil => nofun
  | cons m moves ih =>
    intro x mem
    rcases List.mem_append.1 mem with mem | mem
    · have first := run_of_record? (Option.mem_toList.1 mem)
      have later := number_le_after k (m :: moves)
      omega
    · exact ih (k.move m) x mem

/-- What is told of a move is told of the current run. -/
theorem of_record? (m : Move) (current : k.isCurrent run = true) :
    History.of (k.record? m).toList run = (k.record? m).toList := by
  apply History.of_eq_self
  intro x mem
  have last := run_of_record? (Option.mem_toList.1 mem)
  simp only [isCurrent, Link.isCurrent, Bool.and_eq_true, beq_iff_eq] at current
  omega

/-- A run begins with nothing told of it. -/
theorem tallied_begun (k : Keeper) : Tallied k.begun k.runs.length [] := by
  refine ⟨rfl, rfl, ⟨.first k.previous, ?_, ?_⟩, History.spaced_nil _ _⟩
  · rw [phase?_begun, if_pos rfl]
  · cases k.previous with
    | none => exact ⟨rfl, nofun⟩
    | some earlier => rfl

theorem Tallied.rests {m : Move} (tallied : Tallied k run past) (link : (k.move m).link = k.link)
    (phase : (k.move m).phase? run = k.phase? run) : Tallied (k.move m) run past := by
  obtain ⟨scheduled, attempt, ⟨p, here, stands⟩, spaced⟩ := tallied
  have policy := policy_move k m
  refine ⟨link ▸ scheduled, link ▸ attempt, ⟨p, phase.trans here, ?_⟩, policy ▸ spaced⟩
  cases p with
  | attempting =>
    refine ⟨stands.1, fun due time => ?_⟩
    rw [policy] at time
    exact Nat.le_trans (stands.2 due time) (clock_le_move k m)
  | sleeping until_ =>
    show _ ∧ _ ∧ _
    rw [policy, link]
    exact stands
  | _ => exact stands

/-! ## In time -/

/-- Time passes only while every run has to wait, and not beyond the moment at which one is due. -/
def isPunctual (k : Keeper) : List Move → Bool
  | [] => true
  | m :: moves =>
    (match m with
      | .pass nanos => decide k.Waits && (k.nextDue?).all (k.clock + nanos ≤ ·)
      | _ => true) && (k.move m).isPunctual moves

theorem isPunctual_append (k : Keeper) (moves moves' : List Move) :
    k.isPunctual (moves ++ moves') = (k.isPunctual moves && (k.after moves).isPunctual moves') := by
  induction moves generalizing k with
  | nil => simp [isPunctual]
  | cons m moves ih => simp [isPunctual, ih, Bool.and_assoc]

/-- The current run is not behind its time. -/
def InTime (k : Keeper) (past : History) : Phase → Prop
  | .attempting => ∀ due, past.due? k.policy = some due → k.clock ≤ due
  | .sleeping until_ => k.clock ≤ until_
  | .waiting _ | .connecting _ | .reading _ | .draining .. | .ended => True

/-- Neither is the current run behind its time nor was it with any attempt. -/
structure Prompt (k : Keeper) (run : Nat) (past : History) : Prop where
  inTime : ∀ p, k.phase? run = some p → k.InTime past p
  spaced : past.Spaced (· = ·) k.policy

theorem Prompt.of_phase {p : Phase} (phase : k.phase? run = some p) (inTime : k.InTime past p)
    (spaced : past.Spaced (· = ·) k.policy) : Prompt k run past := by
  refine ⟨fun q phase' => ?_, spaced⟩
  rw [phase] at phase'
  cases phase'
  exact inTime

theorem prompt_begun (k : Keeper) : Prompt k.begun k.runs.length [] := by
  refine .of_phase (p := .first k.previous) (by rw [phase?_begun, if_pos rfl]) ?_
    (History.spaced_nil _ _)
  cases k.previous with
  | none => nofun
  | some earlier => trivial

theorem Retry.prompt (retry : Retry k run k') (heeded : k.logFails = none) {p : Phase}
    (phase : k.phase? run = some p) (spaced : past.Spaced (· = ·) k.policy) :
    Prompt k' run past := by
  rcases retry.cases_of_heeded heeded with ⟨share, delay, _, rfl⟩ | ⟨share, _, rfl⟩
  · exact .of_phase (phase?_setPhase (p := p) phase _) (Nat.le_add_right _ _) spaced
  · exact .of_phase (phase?_setPhase (p := p) phase _) trivial spaced

/-- A run that takes its turn in time makes its attempts in time. -/
theorem Prompt.goes {deed : Option Deed} (prompt : Prompt k run past) (tallied : Tallied k run past)
    (intact : Intact k) (goes : Goes k now run deed k') :
    Prompt k' run (past ++ (deed.map (⟨run, k.clock, now, ·⟩)).toList) := by
  have ⟨inTime, spaced⟩ := prompt
  have ready {deed : Deed} (phase : k.phase? run = some .attempting) :
      History.Spaced (· = ·) k.policy (past ++ [⟨run, k.clock, now, deed⟩]) := by
    obtain ⟨even, ready⟩ := tallied.stands_of phase
    refine spaced.concat fun _ begun => ?_
    obtain ⟨due, time⟩ := History.exists_due k.policy (even ▸ begun)
    exact ⟨due, time, Nat.le_antisymm (ready due time) (inTime _ phase due time)⟩
  cases goes with
  | resumed phase =>
    have nothing : past = [] := tallied.stands_of phase
    subst nothing
    exact .of_phase (phase?_setPhase phase _) nofun spaced
  | dialled phase =>
    exact .of_phase (phase?_setPhase (p := .attempting) phase _) trivial (ready phase)
  | rejected phase _ retry =>
    exact retry.prompt (heeded_told intact.heeded) (p := .attempting) phase (ready phase)
  | refused phase retry =>
    exact retry.prompt (heeded_down intact.heeded) (p := .connecting _) phase (spaced.concat_other rfl)
  | registered phase =>
    exact .of_phase (phase?_setPhase (p := .connecting _) phase _) trivial (spaced.concat_other rfl)
  | @heard socket text k₁ phase read =>
    refine .of_phase (p := .reading socket) ((phase?_readNext? read run).trans phase) trivial ?_
    show History.Spaced _ k₁.policy _
    rw [(alike_readNext? read).policy]
    exact spaced.concat_other rfl
  | @erred socket message k₁ phase read =>
    refine .of_phase (p := .reading socket) ((phase?_readNext? read run).trans phase) trivial ?_
    show History.Spaced _ k₁.policy _
    rw [(alike_readNext? read).policy]
    exact spaced.concat_other rfl
  | @closed socket reason k₁ _ phase read retry =>
    have after := (intact.readNext? read).release
    refine retry.prompt (heeded_down after.heeded) (p := .reading socket) ?_ ?_
    · exact (phase?_release k₁ run).trans ((phase?_readNext? read run).trans phase)
    · show History.Spaced _ k₁.release.policy _
      rw [(alike_release k₁).policy, (alike_readNext? read).policy]
      exact spaced.concat_other rfl
  | @woken until_ phase =>
    obtain ⟨_, _, time⟩ := tallied.stands_of phase
    rw [Option.map_none, Option.toList_none, List.append_nil]
    refine .of_phase (phase?_setPhase (p := .sleeping _) phase _) ?_ spaced
    intro due time'
    have same := time.symm.trans time'
    cases same
    exact inTime _ phase

/-- The next moment at which a run is due is not after the one at which a given run is. -/
theorem exists_nextDue? {r : Run} {until_ : Nat} (mem : r ∈ k.runs)
    (waits : dueOf? r.phase = some until_) (later : k.clock < until_) :
    ∃ due, k.nextDue? = some due ∧ due ≤ until_ := by
  have listed : until_ ∈ (k.runs.filterMap fun r => dueOf? r.phase).filter (k.clock < ·) :=
    List.mem_filter.2 ⟨List.mem_filterMap.2 ⟨r, mem, waits⟩, decide_eq_true later⟩
  unfold nextDue?
  generalize (k.runs.filterMap fun r => dueOf? r.phase).filter (k.clock < ·) = dues at *
  cases least : dues.min? with
  | none =>
    rw [List.min?_eq_none_iff] at least
    rw [least] at listed
    cases listed
  | some due => exact ⟨due, rfl, (List.min?_eq_some_iff.1 least).2 until_ listed⟩

theorem InTime.of_clock {p : Phase} (inTime : k.InTime past p) (policy : k'.policy = k.policy)
    (clock : k'.clock = k.clock) : k'.InTime past p := by
  cases p with
  | attempting =>
    intro due time
    rw [clock]
    exact inTime due (policy ▸ time)
  | sleeping until_ =>
    show k'.clock ≤ until_
    rw [clock]
    exact inTime
  | _ => trivial

/-- Time that passes while all wait does not pass beyond what the current run waits for. -/
theorem inTime_pass {r : Run} {nanos : Nat} (mem : r ∈ k.runs) (attached : r.cancelled = false)
    (waits : k.Waits) (early : ∀ due, k.nextDue? = some due → k.clock + nanos ≤ due) :
    (k.move (.pass nanos)).InTime past r.phase := by
  have held := waits_iff.1 waits r mem
  unfold isHeld at held
  cases phase : r.phase with
  | attempting =>
    rw [phase] at held
    cases held
  | sleeping until_ =>
    simp only [phase, attached, Bool.not_false, Bool.true_and, decide_eq_true_eq] at held
    obtain ⟨due, next, le⟩ := exists_nextDue? mem (by rw [phase]; rfl) held
    exact Nat.le_trans (early due next) le
  | _ => trivial

theorem Prompt.rests {m : Move} (prompt : Prompt k run past) (sound : Sound k)
    (current : k.isCurrent run = true) (punctual : k.isPunctual [m] = true)
    (phase : (k.move m).phase? run = k.phase? run) : Prompt (k.move m) run past := by
  have ⟨inTime, spaced⟩ := prompt
  have policy := policy_move k m
  obtain ⟨r, found⟩ := sound.exists_run current
  have before := phase?_of_run found
  refine .of_phase (phase.trans before) ?_ (policy ▸ spaced)
  cases m with
  | pass nanos =>
    simp only [isPunctual, Bool.and_true, Bool.and_eq_true, decide_eq_true_eq] at punctual
    obtain ⟨waits, early⟩ := punctual
    refine inTime_pass (List.mem_of_getElem? found) (sound.attached run r current found) waits ?_
    intro due next
    rw [next] at early
    simpa using early
  | _ => exact (inTime _ before).of_clock policy (clock_move k _)

/-- **The bookkeeping keeps the tally** of the current run, whatever happens; and the run makes its
attempts in time, if time lets it. -/
theorem tallied_after {policy : Policy} (unjittered : policy.jitter = .zero) (baseUrl : String)
    {moves : List Move} (whole : ∀ m ∈ moves, m.breaks = false)
    (current : ((new policy baseUrl).after moves).isCurrent run = true) :
    Tallied ((new policy baseUrl).after moves) run
        (History.of ((new policy baseUrl).records moves) run) ∧
      ((new policy baseUrl).isPunctual moves = true →
        Prompt ((new policy baseUrl).after moves) run
          (History.of ((new policy baseUrl).records moves) run)) := by
  induction moves using List.reverseRecOn with
  | nil => cases current
  | append_singleton moves m ih =>
    rw [after_append] at current ⊢
    rw [records_concat, History.of_append, isPunctual_append, Bool.and_eq_true]
    have before : ∀ m ∈ moves, m.breaks = false := fun m mem => whole m (List.mem_append_left _ mem)
    have sound := sound_after policy baseUrl before
    have same := policy_after (new policy baseUrl) moves
    have numbers := run_lt_of_records (new policy baseUrl) moves
    generalize (new policy baseUrl).records moves = past at *
    generalize (new policy baseUrl).after moves = k at *
    show Tallied (k.move m) _ _ ∧ (_ → Prompt (k.move m) _ _)
    cases sound.happens m current with
    | begins unwanted isStart next begun =>
      subst isStart next
      -- Nothing was told of the run before: its number is a new one.
      have nothing : past.of k.runs.length = [] := by
        apply History.of_eq_nil
        intro x mem
        have := numbers x mem
        rw [sound.reachable.numbered] at this
        omega
      rw [nothing, begun]
      exact ⟨tallied_begun k, fun _ => prompt_begun k⟩
    | goes _ current told goes =>
      rw [of_record? m current, told]
      obtain ⟨tallied, prompt⟩ := ih before current
      refine ⟨tallied.goes sound.intact (same ▸ unjittered) goes, fun punctual => ?_⟩
      exact (prompt punctual.1).goes tallied sound.intact goes
    | rests current untold link phase =>
      rw [untold, show History.of (none : Option Record).toList run = [] from rfl, List.append_nil]
      obtain ⟨tallied, prompt⟩ := ih before current
      refine ⟨tallied.rests link phase, fun punctual => ?_⟩
      exact (prompt punctual.1).rests sound current punctual.2 phase

/-! ## While all wait -/

/-- A run that sleeps goes on once its time has come, and not before. -/
theorem isSome_advance_of_sleeping {r : Run} {until_ : Nat} (found : k.runs[run]? = some r)
    (attached : r.cancelled = false) (phase : r.phase = .sleeping until_) (nanos : Nat)
    (choice : Choice) (now : String) :
    ((k.move (.pass nanos)).advance now run choice).isSome = true ↔ until_ ≤ k.clock + nanos := by
  have held := isNone_advance (k.move (.pass nanos)) now run choice
  rw [show (k.move (.pass nanos)).runs[run]? = some r from found, Option.all_some, isHeld, phase,
    attached] at held
  have late : (k.move (.pass nanos)).clock = k.clock + nanos := rfl
  rw [← Option.not_isNone, held, late]
  simp

/-- What the bookkeeping says about a run while all wait, by what is told of the run. -/
structure Accounted (k : Keeper) (run : Nat) (past : History) : Prop where
  /-- Every retry but an armed one was followed by an attempt, and so was the beginning. -/
  attempts : past.attempts = k.link.scheduled + if k.link.pending.isSome then 0 else 1
  /-- Each rejected URL, refused attempt and closed socket has armed a retry, and nothing else. -/
  scheduled : k.link.scheduled = past.failures
  attempt : k.link.attempt = min past.inARow Link.maxAttempt
  delay : ∀ delay, k.link.pending = some delay → delay = k.policy.backoff k.link.attempt
  /-- An armed retry makes the run go on when its delay is over, and not before. -/
  wakes : ∀ delay, k.link.pending = some delay → ∃ failed, past.lastFailure? = some failed ∧
    ∀ nanos choice now, ((k.move (.pass nanos)).advance now run choice).isSome = true ↔
      failed + delay.nanos ≤ k.clock + nanos
  /-- No attempt came before its time. -/
  spaced : past.Spaced (· ≤ ·) k.policy

theorem Tallied.accounted (tallied : Tallied k run past) (sound : Sound k)
    (current : k.isCurrent run = true) (waits : k.Waits) (begun : 0 < past.attempts) :
    Accounted k run past := by
  have ⟨scheduled, attempt, _, spaced⟩ := tallied
  obtain ⟨r, found⟩ := sound.exists_run current
  have held := waits_iff.1 waits r (List.mem_of_getElem? found)
  have stands := tallied.stands_of (phase?_of_run found)
  have booked := sound.booked run r.phase current (phase?_of_run found)
  have unarmed (none : k.link.pending = none) (odd : past.attempts = past.failures + 1) :
      Accounted k run past := by
    refine ⟨?_, scheduled, attempt, ?_, ?_, spaced⟩
    · rw [none, scheduled]
      exact odd
    all_goals
      intro delay armed
      rw [none] at armed
      cases armed
  cases phase : r.phase with
  | waiting earlier =>
    rw [phase] at stands
    have nothing : past = [] := stands
    rw [nothing] at begun
    cases begun
  | attempting =>
    rw [isHeld, phase] at held
    cases held
  | connecting dial =>
    rw [phase] at stands booked
    exact unarmed booked.2 stands
  | reading socket =>
    rw [phase] at stands booked
    exact unarmed booked stands
  | sleeping until_ =>
    rw [phase] at stands
    obtain ⟨even, pending, due⟩ := stands
    refine ⟨?_, scheduled, attempt, ?_, ?_, spaced⟩
    · rw [pending, scheduled]
      exact even
    · intro delay armed
      exact Option.some.inj (armed.symm.trans pending)
    · intro delay armed
      cases armed.symm.trans pending
      rw [History.due?, Option.map_eq_some_iff, ← attempt] at due
      obtain ⟨failed, last, rfl⟩ := due
      refine ⟨failed, last, ?_⟩
      exact isSome_advance_of_sleeping found (sound.attached run r current found) phase
  | draining socket until_ =>
    rw [phase] at stands
    exact absurd stands id
  | ended =>
    rw [phase] at stands
    exact absurd stands id

/-- **Every failure arms one retry, and every retry comes in its time.**  Where nothing is made to
fail and no jitter is added, the bookkeeping of the current run is what its history counts to
whenever all wait, once the run has begun its first attempt; and no attempt of it came late, unless
time has passed over the moment at which it was due. -/
theorem accounted_of_waits {policy : Policy} (unjittered : policy.jitter = .zero) (baseUrl : String)
    {moves : List Move} (whole : ∀ m ∈ moves, m.breaks = false) {run : Nat} :
    let k := (new policy baseUrl).after moves
    let past := History.of ((new policy baseUrl).records moves) run
    k.isCurrent run = true → k.Waits → 0 < past.attempts →
      Accounted k run past ∧
      ((new policy baseUrl).isPunctual moves = true → past.Spaced (· = ·) policy) := by
  intro k past current waits begun
  obtain ⟨tallied, prompt⟩ := tallied_after unjittered baseUrl whole current
  have same : k.policy = policy := policy_after (new policy baseUrl) moves
  refine ⟨tallied.accounted (sound_after policy baseUrl whole) current waits begun, ?_⟩
  intro punctual
  rw [← same]
  exact (prompt punctual).spaced

/-- An attempt is refused, the next one, a second later, ends in a socket, and that closes after an
error: two failures, the second of them the first in a row. -/
theorem accounted_of_waits_closed :
    let policy : Policy := ⟨.ofSeconds 1, .ofSeconds 30, .zero⟩
    let go : Move := .go 0 .plain ""
    let moves : List Move :=
      [.act (.refuse [.noRuntime]) rfl, .act (.accept false false) rfl, .start, go, go,
        .pass 1000000000, go, go, go, .act (.send 0 (.error "reset")) rfl, .act (.hangUp 0) rfl, go,
        go]
    let k := (new policy "http://a").after moves
    let past := History.of ((new policy "http://a").records moves) 0
    (k.isCurrent 0 = true ∧ k.Waits ∧ past.attempts = 2 ∧ past.failures = 2 ∧ past.inARow = 1 ∧
        k.link.pending = some (.ofSeconds 1)) ∧
      Accounted k 0 past ∧ past.Spaced (· = ·) policy := by
  intro policy go moves k past
  have whole : ∀ m ∈ moves, m.breaks = false := by decide
  have current : k.isCurrent 0 = true := by decide +kernel
  have waits : k.Waits := by decide +kernel
  have punctual : (new policy "http://a").isPunctual moves = true := by decide +kernel
  have begun : 0 < past.attempts := by decide +kernel
  obtain ⟨accounted, spaced⟩ :=
    @accounted_of_waits policy rfl "http://a" moves whole 0 current waits begun
  refine ⟨⟨current, waits, ?_, ?_, ?_, ?_⟩, accounted, spaced punctual⟩
  all_goals decide +kernel

end Keeper

end VoiceTicket
