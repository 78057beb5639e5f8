/-
  How long it takes until all wait.

  1. **Data** — `Phase.stepsLeft` is how many steps a run that is over can still make without an
     event; `Keeper.backlog` adds to that, over all runs, what is unread in all sockets.

  2. **Specification** — where no connection is wanted each step takes something off the backlog
     (`backlog_advance`), and `Keeper.work` is no less, so that to settle ends where all wait
     (`waits_settle`).  To wait for a run that was stopped, from there, is to idle punctually, and
     it ends with the run, within the grace period (`Winding.lapses_awaitEnd`).

  3. **The crux** — a wanted connection may go on for ever at one moment, through retries without
     a delay; one that is not wanted may not, since a run that is over arms no retry.
-/
import Mathlib.Algebra.Ring.Nat
import VoiceTicket.Proofs.Keeper.WindingDown

namespace VoiceTicket

/-- How many steps are left to a run that is over, apart from the events that it skips. -/
def Phase.stepsLeft : Phase → Nat
  | .waiting _ | .connecting _ | .reading _ => 2
  | .attempting | .draining .. | .sleeping _ => 1
  | .ended => 0

/-- Where one element of a list is changed the sum changes by as much. -/
theorem sum_map_modify {α : Type} {f : α → α} (g : α → Nat) {l : List α} {i : Nat} {a : α}
    (found : l[i]? = some a) :
    ((l.modify i f).map g).sum + g a = (l.map g).sum + g (f a) := by
  induction l generalizing i with
  | nil => cases found
  | cons b l ih =>
    cases i with
    | zero =>
      have same : b = a := Option.some.inj found
      subst same
      simp only [List.modify_zero_cons, List.map_cons, List.sum_cons]
      omega
    | succ i =>
      have rest := ih (i := i) found
      simp only [List.modify_succ_cons, List.map_cons, List.sum_cons]
      omega

theorem map_modify_same {α β : Type} {f : α → α} {g : α → β} (same : ∀ a, g (f a) = g a)
    (l : List α) (i : Nat) : (l.modify i f).map g = l.map g := by
  apply List.ext_getElem?
  intro j
  simp only [List.getElem?_map, List.getElem?_modify]
  cases l[j]? with
  | none => rfl
  | some a => by_cases own : i = j <;> simp [own, same]

/-- An event other than a close leaves the queue when it is read. -/
theorem Socket.length_next {s s' : Socket} {e : SocketEvent} (h : s.next? = some (e, s')) :
    s'.queue.length ≤ s.queue.length ∧
      ((∀ reason, e ≠ .closed reason) → s'.queue.length < s.queue.length) := by
  unfold next? at h
  split at h
  · cases h
    exact ⟨Nat.le_refl _, fun other => absurd rfl (other none)⟩
  · split at h
    · next e' rest queue =>
      cases h
      simp [queue]
    · split at h
      · cases h
        exact ⟨Nat.le_refl _, fun other => absurd rfl (other none)⟩
      · cases h

namespace Keeper

variable {k k' : Keeper} {now : String} {run n time : Nat} {r : Run}

/-! ## What is left to do -/

/-- How much is unread in all sockets. -/
def unreadCount (k : Keeper) : Nat := (k.sockets.map (·.queue.length)).sum

/-- More than the number of steps that runs which are over can still make at one moment. -/
def backlog (k : Keeper) : Nat := (k.runs.map (·.phase.stepsLeft)).sum + k.unreadCount

theorem unreadCount_modifySocket (k : Keeper) (socket : Nat) {f : Socket → Socket}
    (same : ∀ s, (f s).queue = s.queue) :
    (k.modifySocket socket f).unreadCount = k.unreadCount := by
  have lengths : (k.sockets.modify socket f).map (·.queue.length)
      = k.sockets.map (·.queue.length) := by
    apply map_modify_same
    intro s
    rw [same]
  rw [unreadCount, unreadCount, modifySocket, lengths]

theorem unreadCount_release (k : Keeper) : k.release.unreadCount = k.unreadCount := by
  cases live : k.live with
  | none => rw [release_of_none live]
  | some socket =>
    rw [release_of_some live]
    exact unreadCount_modifySocket k socket fun _ => rfl

/-- To read takes an event, unless the socket has closed. -/
theorem unreadCount_readNext? {socket : Nat} {e : SocketEvent}
    (read : k.readNext? socket = some (e, k')) :
    k'.unreadCount ≤ k.unreadCount ∧
      ((∀ reason, e ≠ .closed reason) → k'.unreadCount < k.unreadCount) := by
  obtain ⟨s, s', found, next, rfl⟩ := readNext?_eq read
  obtain ⟨le, lt⟩ := Socket.length_next next
  have sum : (k.modifySocket socket fun _ => s').unreadCount + s.queue.length
      = k.unreadCount + s'.queue.length := sum_map_modify (·.queue.length) found
  constructor
  · omega
  · intro other
    have less := lt other
    omega

/-- A run that comes nearer to its end takes something off the backlog. -/
theorem backlog_setPhase {k₁ : Keeper} {p : Phase} (h : k.runs[run]? = some r)
    (rest : Alike k k₁) (unread : k₁.unreadCount ≤ k.unreadCount)
    (nearer : p.stepsLeft < r.phase.stepsLeft) : (k₁.setPhase run p).backlog < k.backlog := by
  have sum : ((k.runs.modify run fun r => { r with phase := p }).map (·.phase.stepsLeft)).sum
      + r.phase.stepsLeft = (k.runs.map (·.phase.stepsLeft)).sum + p.stepsLeft :=
    sum_map_modify (·.phase.stepsLeft) h
  have runs : (k₁.setPhase run p).runs = k.runs.modify run fun r => { r with phase := p } := by
    rw [← rest.runs]
    rfl
  have same : (k₁.setPhase run p).unreadCount = k₁.unreadCount := rfl
  rw [backlog, backlog, runs, same]
  omega

/-- A run that is over and drains no socket comes nearer to its end in its turn. -/
theorem Turn.backlog_lt (h : k.runs[run]? = some r) (turn : Turn k now run r k')
    (outdated : k.isCurrent run = false)
    (dry : ∀ socket until_, r.phase ≠ .draining socket until_) : k'.backlog < k.backlog := by
  have never {P : Prop} (current : k.isCurrent run = true) : P := by
    rw [outdated] at current
    cases current
  cases turn with
  | resumed phase =>
    exact backlog_setPhase h (.refl k) (Nat.le_refl _) (by simp [phase, Phase.stepsLeft])
  | unasked phase =>
    have rest : Alike k { k with urlFails := false } :=
      ⟨rfl, rfl, rfl, rfl, rfl, rfl, rfl, rfl, rfl, rfl⟩
    exact backlog_setPhase h rest (Nat.le_refl _) (by simp [phase, Phase.stepsLeft])
  | @late socket s phase =>
    refine backlog_setPhase h ((alike_modifySocket k socket _).trans
      (alike_modifySocket _ socket _)) ?_ (by simp [phase, Phase.stepsLeft])
    apply Nat.le_of_eq
    calc ((k.openSocket socket).closeSocket socket).unreadCount
        = (k.openSocket socket).unreadCount := unreadCount_modifySocket _ _ fun _ => rfl
      _ = k.unreadCount := unreadCount_modifySocket _ _ fun _ => rfl
  | @dropped socket reason k₁ phase _ read =>
    refine backlog_setPhase h ((alike_readNext? read).trans (alike_release k₁)) ?_
      (by simp [phase, Phase.stepsLeft])
    rw [unreadCount_release]
    exact (unreadCount_readNext? read).1
  | @left socket k₁ phase _ read =>
    have rest : Alike k k₁ ∧ k₁.unreadCount ≤ k.unreadCount := by
      rcases read with rfl | ⟨e, read⟩
      · exact ⟨.refl _, Nat.le_refl _⟩
      · exact ⟨alike_readNext? read, (unreadCount_readNext? read).1⟩
    refine backlog_setPhase h (rest.1.trans (alike_release k₁)) ?_
      (by simp [phase, Phase.stepsLeft])
    rw [unreadCount_release]
    exact rest.2
  | quit phase =>
    refine backlog_setPhase h (.refl k) (Nat.le_refl _) ?_
    rcases phase with phase | ⟨dial, phase⟩ | ⟨until_, phase⟩
    all_goals simp [phase, Phase.stepsLeft]
  | skipped phase | drained phase => exact absurd phase (dry _ _)
  | dialled _ current | rejected _ current | refused _ current | registered _ current
  | heard _ current | erred _ current | closed _ current | woken _ _ current
  | failed _ current => exact never current

/-- **Each step of a run that is over takes something off the backlog.** -/
theorem backlog_advance {choice : Choice} (outdated : k.isCurrent run = false)
    (step : k.advance now run choice = some k') : k'.backlog < k.backlog := by
  cases h : k.runs[run]? with
  | none =>
    rw [advance, h] at step
    cases step
  | some r =>
    cases phase : r.phase with
    | draining socket until_ =>
      have ended {k₁ : Keeper} (rest : Alike k k₁) (unread : k₁.unreadCount ≤ k.unreadCount) :
          (k₁.setPhase run .ended).backlog < k.backlog :=
        backlog_setPhase h rest unread (by simp [phase, Phase.stepsLeft])
      simp only [advance, h, effect?, phase, Option.map_eq_some_iff] at step
      obtain ⟨effect, step, rfl⟩ := step
      unfold drain? at step
      split at step
      · next reason k₁ read =>
        cases step
        exact ended (alike_readNext? read) (unreadCount_readNext? read).1
      · next e k₁ other read =>
        cases step
        have less := (unreadCount_readNext? read).2 fun reason same =>
          other reason (by rw [same])
        show k₁.backlog < k.backlog
        rw [backlog, backlog, (alike_readNext? read).runs]
        omega
      · split at step
        · cases step
          exact ended (.refl k) (Nat.le_refl _)
        · cases step
    | waiting | attempting | connecting | reading | sleeping | ended =>
      refine (turn_of_advance h step).backlog_lt h outdated ?_
      intro socket until_ same
      rw [phase] at same
      cases same

/-! ## Until all wait -/

theorem waits_or_step (k : Keeper) (now : String) :
    k.Waits ∨ ∃ k', k.advanceAny now = some k' := by
  have first (runs : List Nat) : (∀ run ∈ runs, k.advance now run .plain = none) ∨
      ∃ k', k.advanceFirst now runs = some k' := by
    induction runs with
    | nil => exact Or.inl nofun
    | cons run rest ih =>
      unfold advanceFirst
      cases step : k.advance now run .plain with
      | some k' => exact Or.inr ⟨k', rfl⟩
      | none =>
        rcases ih with none | some
        · exact Or.inl (List.forall_mem_cons.2 ⟨step, none⟩)
        · exact Or.inr some
  rcases first (List.range k.runs.length) with none | step
  · refine Or.inl (waits_iff.2 fun r mem => ?_)
    obtain ⟨run, found⟩ := List.getElem?_of_mem mem
    have lt := (List.getElem?_eq_some_iff.1 found).1
    have held := isNone_advance k now run .plain
    rw [none run (List.mem_range.2 lt), found] at held
    exact held.symm
  · exact Or.inr step

theorem unwanted_advance {choice : Choice} (unwanted : k.link.wanted = false)
    (step : k.advance now run choice = some k') : k'.link.wanted = false := by
  have silent := (moved k (.go run choice now)).silent unwanted nofun
  rw [← move_of_advance step, silent.link, unwanted]

theorem waits_settleFor (unwanted : k.link.wanted = false) {fuel : Nat}
    (enough : k.backlog ≤ fuel) (now : String) : (settleFor now fuel k).Waits := by
  induction fuel generalizing k with
  | zero =>
    rcases waits_or_step k now with waits | ⟨k', step⟩
    · exact waits
    · obtain ⟨run, step⟩ := exists_run_of_advanceFirst step
      have less := backlog_advance (isCurrent_of_unwanted unwanted run) step
      omega
  | succ fuel ih =>
    unfold settleFor
    split
    · next k' step =>
      obtain ⟨run, step⟩ := exists_run_of_advanceFirst step
      have less := backlog_advance (isCurrent_of_unwanted unwanted run) step
      exact ih (unwanted_advance unwanted step) (by omega)
    · next none =>
      rcases waits_or_step k now with waits | ⟨k', step⟩
      · exact waits
      · rw [none] at step
        cases step

theorem backlog_le_work (k : Keeper) : k.backlog ≤ k.work := by
  have runs : (k.runs.map (·.phase.stepsLeft)).sum ≤ 2 * k.runs.length := by
    induction k.runs with
    | nil => exact Nat.le_refl 0
    | cons r runs ih =>
      have few : r.phase.stepsLeft ≤ 2 := by cases r.phase <;> simp [Phase.stepsLeft]
      simp only [List.map_cons, List.sum_cons, List.length_cons]
      omega
  have sockets (n : Nat) : n + k.unreadCount
      ≤ k.sockets.foldl (fun n s => n + s.queue.length + 4) n := by
    unfold unreadCount
    induction k.sockets generalizing n with
    | nil => exact Nat.le_refl n
    | cons s sockets ih =>
      have rest := ih (n + s.queue.length + 4)
      simp only [List.map_cons, List.sum_cons, List.foldl_cons]
      omega
  have unread := sockets 0
  rw [backlog, work]
  omega

/-- **Where no connection is wanted, to settle ends where all wait.** -/
theorem waits_settle (unwanted : k.link.wanted = false) (now : String) : (k.settle now).Waits :=
  waits_settleFor unwanted k.backlog_le_work now

/-! ## In time -/

/-- Runs go on, and time passes punctually. -/
def Lapses (k k' : Keeper) : Prop :=
  ∃ moves : List Move, (∀ m ∈ moves, m.isIdle = true) ∧ k.isPunctual moves = true ∧
    k' = k.after moves

theorem Lapses.refl (k : Keeper) : Lapses k k := ⟨[], nofun, rfl, rfl⟩

theorem Lapses.trans {k₁ k₂ k₃ : Keeper} (h : Lapses k₁ k₂) (h' : Lapses k₂ k₃) :
    Lapses k₁ k₃ := by
  obtain ⟨moves, idle, punctual, rfl⟩ := h
  obtain ⟨moves', idle', punctual', rfl⟩ := h'
  refine ⟨moves ++ moves', ?_, ?_, (after_append k₁ moves moves').symm⟩
  · intro m mem
    rcases List.mem_append.1 mem with mem | mem
    · exact idle m mem
    · exact idle' m mem
  · rw [isPunctual_append, punctual, punctual']
    rfl

theorem isPunctual_steps (k : Keeper) (now : String) (runs : List Nat) :
    k.isPunctual (runs.map (.go · .plain now)) = true := by
  induction runs generalizing k with
  | nil => rfl
  | cons run runs ih =>
    show (true && (k.move (.go run .plain now)).isPunctual _) = true
    rw [ih, Bool.and_self]

theorem lapses_settle (k : Keeper) (now : String) : Lapses k (k.settle now) := by
  obtain ⟨runs, steps⟩ := exists_runs_settleFor now k.work k
  refine ⟨_, fun m mem => ?_, isPunctual_steps k now runs, steps⟩
  obtain ⟨run, _, rfl⟩ := List.mem_map.1 mem
  rfl

theorem Lapses.unwanted (lapses : Lapses k k') (unwanted : k.link.wanted = false) :
    k'.link.wanted = false := by
  obtain ⟨moves, idle, _, rfl⟩ := lapses
  have unstarted : k.Unstarted moves := by
    apply unstarted_of_not_mem
    intro mem
    cases idle .start mem
  rw [(silent_after unwanted unstarted).link, unwanted]

/-- Time that passes up to some moment, and not beyond the one at which a run is due. -/
theorem lapses_wakeAt (waits : k.Waits) {time : Nat} (later : k.clock ≤ time)
    (early : ∀ due, k.nextDue? = some due → time ≤ due) (now : String) :
    Lapses k (k.wakeAt now time) := by
  have passes : k.move (.pass (time - k.clock)) = { k with clock := time } := by
    simp [move, Nat.add_sub_cancel' later]
  have punctual : k.isPunctual [.pass (time - k.clock)] = true := by
    have upTo : (k.nextDue?).all (k.clock + (time - k.clock) ≤ ·) = true := by
      rw [Nat.add_sub_cancel' later]
      cases next : k.nextDue? with
      | none => rfl
      | some due => exact decide_eq_true (early due next)
    rw [isPunctual, upTo, decide_eq_true waits]
    rfl
  have passed : Lapses k { k with clock := time } := by
    refine ⟨[.pass (time - k.clock)], ?_, punctual, passes.symm⟩
    intro m mem
    rw [List.mem_singleton.1 mem]
    rfl
  exact passed.trans (lapses_settle _ now)

/-! ## Until a run has ended -/

theorem backlog_settleFor_le (unwanted : k.link.wanted = false) (fuel : Nat) (now : String) :
    (settleFor now fuel k).backlog ≤ k.backlog := by
  induction fuel generalizing k with
  | zero => exact Nat.le_refl _
  | succ fuel ih =>
    unfold settleFor
    split
    · next k' step =>
      obtain ⟨run, step⟩ := exists_run_of_advanceFirst step
      have less := backlog_advance (isCurrent_of_unwanted unwanted run) step
      have rest := ih (unwanted_advance unwanted step)
      omega
    · exact Nat.le_refl _

/-- To settle takes something off the backlog where some run can go on. -/
theorem backlog_settle_lt (unwanted : k.link.wanted = false) (busy : ¬ k.Waits) (now : String) :
    (k.settle now).backlog < k.backlog := by
  obtain ⟨k', step⟩ := (waits_or_step k now).resolve_left busy
  obtain ⟨fuel, enough⟩ : ∃ fuel, k.work = fuel + 1 := ⟨k.work - 1, by unfold work; omega⟩
  rw [settle, enough, settleFor, step]
  obtain ⟨run, step⟩ := exists_run_of_advanceFirst step
  calc (settleFor now fuel k').backlog
      ≤ k'.backlog := backlog_settleFor_le (unwanted_advance unwanted step) fuel now
    _ < k.backlog := backlog_advance (isCurrent_of_unwanted unwanted run) step

/-- Where all wait, the run that is due next can go on once it is due. -/
theorem not_waits_of_due {time : Nat} (due : k.nextDue? = some time) :
    ¬ ({ k with clock := time } : Keeper).Waits := by
  intro waits
  obtain ⟨r, mem, waiting⟩ := List.mem_filterMap.1 (List.mem_filter.1 (List.min?_mem due)).1
  have held := waits_iff.1 waits r mem
  unfold isHeld at held
  unfold dueOf? at waiting
  cases phase : r.phase with
  | draining socket until_ =>
    simp only [phase, Option.some.injEq] at waiting
    simp [phase, waiting] at held
  | sleeping until_ =>
    simp only [phase, Option.some.injEq] at waiting
    simp [phase, waiting] at held
  | waiting | attempting | connecting | reading | ended => simp [phase] at waiting

/-- While one of the runs that were stopped has not ended, one of them is due within the grace
period. -/
theorem Winding.exists_due (winding : Winding k n time) (reachable : k.Reachable) (waits : k.Waits)
    (lt : run < n) (going : k.hasEnded run = false) :
    ∃ due, k.nextDue? = some due ∧ due ≤ time + closeGrace := by
  obtain ⟨r, mem, socket, until_, phase, later, le⟩ :=
    winding.exists_draining reachable waits run lt going
  obtain ⟨due, next, first⟩ := exists_nextDue? mem (by rw [phase]; rfl) later
  exact ⟨due, next, Nat.le_trans first le⟩

theorem Lapses.reachable (lapses : Lapses k k') (reachable : k.Reachable) : k'.Reachable := by
  obtain ⟨moves, _, _, rfl⟩ := lapses
  exact reachable.after moves

theorem Lapses.winding (lapses : Lapses k k') (reachable : k.Reachable)
    (winding : Winding k n time) : Winding k' n time := by
  obtain ⟨moves, _, punctual, rfl⟩ := lapses
  exact (winding.after reachable punctual).1

/-- **To wait for a run that was stopped is to idle punctually** until it has ended, and that is
within the grace period. -/
theorem Winding.lapses_awaitEnd (winding : Winding k n time) (reachable : k.Reachable)
    (waits : k.Waits) (unwanted : k.link.wanted = false) (lt : run < n)
    (within : k.clock ≤ time + closeGrace) {fuel : Nat} (enough : k.backlog ≤ fuel)
    (now : String) :
    let k' := awaitEnd now run fuel k
    Lapses k k' ∧ k'.clock ≤ time + closeGrace ∧ k'.hasEnded run = true := by
  induction fuel generalizing k with
  | zero =>
    cases ended : k.hasEnded run with
    | true => exact ⟨.refl k, within, ended⟩
    | false =>
      -- Whoever is due has something left to do.
      obtain ⟨due, next, _⟩ := winding.exists_due reachable waits lt ended
      have less := backlog_settle_lt (k := { k with clock := due }) unwanted
        (not_waits_of_due next) now
      have same : ({ k with clock := due } : Keeper).backlog = k.backlog := rfl
      omega
  | succ fuel ih =>
    unfold awaitEnd
    cases ended : k.hasEnded run with
    | true =>
      rw [if_pos rfl]
      exact ⟨.refl k, within, ended⟩
    | false =>
      obtain ⟨due, next, le⟩ := winding.exists_due reachable waits lt ended
      rw [if_neg Bool.false_ne_true, next]
      have woken : Lapses k (k.wakeAt now due) := by
        refine lapses_wakeAt waits (Nat.le_of_lt (clock_lt_nextDue? next)) (fun due' next' => ?_) now
        rw [next] at next'
        exact Nat.le_of_eq (Option.some.inj next')
      have clock : (k.wakeAt now due).clock = due := clock_settle { k with clock := due } now
      have less : (k.wakeAt now due).backlog < k.backlog :=
        backlog_settle_lt (k := { k with clock := due }) unwanted (not_waits_of_due next) now
      have still : ({ k with clock := due } : Keeper).link.wanted = false := unwanted
      have rest := ih (woken.winding reachable winding) (woken.reachable reachable)
        (waits_settle still now) (woken.unwanted unwanted) (by rw [clock]; exact le) (by omega)
      exact ⟨woken.trans rest.1, rest.2⟩

end Keeper

end VoiceTicket
