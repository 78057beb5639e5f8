/-
  A shutdown returns in time.

  1. **Data** — any keeper that is called in order and whose reports are heard (`Heeded`); there may
     have been no base URL at any asking.  A shutdown is run as the schedule runs it
     (`Keeper.shutdown`), or gets in between anything but calls, its two halves apart.

  2. **Specification** — `shutdown_within_grace`: it returns within the grace period, and then
     nothing is left of any run (`AtRest`).  Out of order that may fail: who shuts down while
     another shutdown waits finds no run to wait for (`not_forall_shutdown_rests`).

  3. **The crux** — a shutdown waits for the last run only, and that may stand behind a chain of
     earlier ones, each of which may drain a socket of its own.  Their grace periods do not add up:
     they began at the stop or before (`Winding`), and the end of the last run means the end of all
     (`Heeded.atRest`).

  4. **Bridge** — the schedule that runs makes moves in time (`Reachable.lapses_shutdown`), so what holds of
     every way in which a shutdown can go holds of it.
-/
import VoiceTicket.Proofs.Keeper.Settling

namespace VoiceTicket.Keeper

variable {k k' : Keeper} {c : Caller}

/-- Nothing is left of any run, and until the next one begins nothing is seen. -/
structure AtRest (k : Keeper) : Prop where
  ended : ∀ run, k.hasEnded run = true
  shut : k.openCount = 0
  silent : ∀ moves, k.Unstarted moves → Silent k (k.after moves)

/-! ## Keepers that are called in order -/

theorem Heeded.reachable (called : Heeded k c) : k.Reachable := by
  induction called with
  | new policy baseUrl => exact reachable_new policy baseUrl
  | start _ reachable => exact reachable.after [.start]
  | stop _ reachable | shutdown _ reachable => exact reachable.after [.stop]
  | handOver _ reachable => exact reachable.after [.handOver]
  | returns _ _ reachable => exact reachable
  | other m _ _ _ reachable => exact reachable.after [m]

/-- What neither calls nor silences the log leaves the caller where it is. -/
theorem Heeded.after (called : Heeded k c) {moves : List Move}
    (others : ∀ m ∈ moves, m.isCall = false ∧ m.breaksLog = false) :
    Heeded (k.after moves) c := by
  induction moves generalizing k with
  | nil => exact called
  | cons m moves ih =>
    obtain ⟨uncalled, audible⟩ := others m List.mem_cons_self
    exact ih (called.other m uncalled audible) fun m' mem => others m' (List.mem_cons_of_mem m mem)

theorem others_of_idle {moves : List Move} (idle : ∀ m ∈ moves, m.isIdle = true) :
    ∀ m ∈ moves, m.isCall = false ∧ m.breaksLog = false := by
  intro m mem
  have idle := idle m mem
  cases m with
  | act | handOver => cases idle
  | go | pass => exact ⟨rfl, rfl⟩

theorem Heeded.idles (called : Heeded k c) (idles : Idles k k') : Heeded k' c := by
  obtain ⟨moves, idle, rfl⟩ := idles
  exact called.after (others_of_idle idle)

/-- Only calls change which run the next one has to wait for. -/
theorem previous_after {moves : List Move} (uncalled : ∀ m ∈ moves, m.isCall = false) :
    (k.after moves).previous = k.previous := by
  induction moves generalizing k with
  | nil => rfl
  | cons m moves ih =>
    have first : (k.move m).previous = k.previous := by
      have quiet := uncalled m List.mem_cons_self
      have moved := moved k m
      generalize k.move m = k₁ at *
      cases moved with
      | ignored | begun | stopped | handedOver => cases quiet
      | waits => rfl
      | turns h turn =>
        obtain ⟨p, shift⟩ := turn.shift h
        exact shift.previous
      | aside aside => exact aside.previous
    rw [after_cons, ih fun m' mem => uncalled m' (List.mem_cons_of_mem m mem), first]

/-- **Where nobody is to be waited for and no connection is wanted, nothing is left.** -/
theorem Heeded.atRest (called : Heeded k .free) (unwanted : k.link.wanted = false)
    (unnamed : k.previous = none) : AtRest k := by
  obtain ⟨single, keeps⟩ := called.single_keeps
  have bare := (single.bare unwanted).1
  exact ⟨keeps.free nofun unnamed, single.covered.openCount_eq_zero bare,
    fun moves unstarted => silent_after unwanted unstarted⟩

/-! ## Whatever comes in between -/

/-- The keeper between the halves of a shutdown: no run has begun since. -/
theorem length_between (reachable : k.Reachable) {between : List Move}
    (uncalled : ∀ m ∈ between, m.isCall = false) :
    (k.stop.2.after between).runs.length = k.runs.length := by
  have stopped : k.stop.2.Reachable := reachable.after [.stop]
  have unwanted : k.stop.2.link.wanted = false := Halts.stop.unwanted
  have unstarted : k.stop.2.Unstarted between := by
    apply unstarted_of_not_mem
    intro mem
    cases uncalled .start mem
  rw [← (stopped.after between).numbered, (silent_after unwanted unstarted).link, stop_eq]
  exact (number_stop k.link).trans reachable.numbered

/-- Nothing is seen of a call that halts, once it has stopped. -/
theorem Halts.silent (halts : Halts k k') : Silent k.stop.2 k' := by
  obtain ⟨moves, rfl, unstarted⟩ := halts.exists_moves
  have unwanted : k.stop.2.link.wanted = false := Halts.stop.unwanted
  exact silent_after unwanted unstarted

/-- The run that a shutdown waits for has ended, if there is one. -/
def Returned (awaited : Option Nat) (k : Keeper) : Prop :=
  ∀ run, awaited = some run → k.hasEnded run = true

/-- **Whatever gets in between**, a shutdown returns within the grace period, nothing is seen
meanwhile, and then nothing is left. -/
theorem Heeded.returns_in_time (called : Heeded k .free) {between later : List Move}
    (others : ∀ m ∈ between ++ later, m.isCall = false ∧ m.breaksLog = false)
    (punctual : k.stop.2.isPunctual (between ++ .handOver :: later) = true) :
    let before := k.stop.2.after between
    let k' := (before.move .handOver).after later
    (¬ Returned before.previous k' → k'.clock ≤ k.clock + closeGrace) ∧
      (k'.Waits → k.clock + closeGrace ≤ k'.clock → Returned before.previous k') ∧
      Silent k.stop.2 k' ∧ (Returned before.previous k' → AtRest k') := by
  intro before k'
  have reachable := called.reachable
  have earlier : ∀ m ∈ between, m.isCall = false ∧ m.breaksLog = false :=
    fun m mem => others m (List.mem_append_left later mem)
  have after : ∀ m ∈ later, m.isCall = false ∧ m.breaksLog = false :=
    fun m mem => others m (List.mem_append_right between mem)
  have there : before.Reachable := (reachable.after [.stop]).after between
  have whole : k.stop.2.after (between ++ .handOver :: later) = k' := by
    rw [after_append, after_cons]
  have ends := reachable.ended_of_stop punctual
  rw [whole] at ends
  have known (run : Nat) (named : before.previous = some run) : run < k.runs.length := by
    have lt := there.queued.last run named
    rw [length_between reachable fun m mem => (earlier m mem).1] at lt
    exact lt
  have halts : Halts k k' := .shutdown between later fun m mem => (others m mem).1
  refine ⟨?_, ?_, halts.silent, ?_⟩
  · intro pending
    obtain ⟨run, named, going⟩ : ∃ run, before.previous = some run ∧ k'.hasEnded run = false := by
      simpa [Returned] using pending
    exact ends.2 run (known run named) going
  · intro waits late run named
    exact ends.1 waits late run (known run named)
  · intro returned
    have waiting : Heeded k' (.waiting before.previous) :=
      ((called.shutdown.after earlier).handOver).after after
    have unnamed : k'.previous = none := previous_after fun m mem => (after m mem).1
    exact (waiting.returns returned).atRest halts.unwanted unnamed

/-! ## The schedule that runs -/

/-- The waiting half of a shutdown makes moves in time, and ends once the run has ended; that is
within the grace period. -/
theorem Reachable.lapses_shutdown (reachable : k.Reachable) (now : String) :
    let k' := (k.shutdown now).2
    Lapses (k.stop.2.move .handOver) k' ∧ k'.clock ≤ k.clock + closeGrace ∧
      Returned k.stop.2.previous k' := by
  intro k'
  let handed := k.stop.2.move .handOver
  have stopped : k.stop.2.Reachable := reachable.after [.stop]
  have there : handed.Reachable := stopped.after [.handOver]
  have unwanted : handed.link.wanted = false := Halts.stop.unwanted
  have settled := lapses_settle handed now
  have still : (handed.settle now).clock = k.clock :=
    (clock_settle handed now).trans (clock_move k .stop)
  have within : (handed.settle now).clock ≤ k.clock + closeGrace := by omega
  cases named : k.stop.2.previous with
  | none =>
    have same : k' = handed.settle now := by
      simp only [k', shutdown, takePrevious, named]
      rfl
    rw [same]
    refine ⟨settled, within, fun run awaited => ?_⟩
    cases awaited
  | some run =>
    have same : k' = awaitEnd now run (handed.settle now).work (handed.settle now) := by
      simp only [k', shutdown, takePrevious, named]
      rfl
    have lt : run < k.runs.length := by
      have same : (k.stop.2.after []).runs.length = k.runs.length :=
        length_between reachable (List.forall_mem_nil _)
      rw [← same]
      exact stopped.queued.last run named
    have winding : Winding handed k.runs.length k.clock := reachable.winding.move stopped rfl
    obtain ⟨passes, inTime, ended⟩ := (settled.winding there winding).lapses_awaitEnd
      (settled.reachable there) (waits_settle unwanted now) (settled.unwanted unwanted) lt within
      (handed.settle now).backlog_le_work now
    rw [same]
    refine ⟨settled.trans passes, inTime, fun run' awaited => ?_⟩
    rw [← Option.some.inj awaited]
    exact ended

/-- The shutdown that is run returns, and leaves nothing. -/
theorem Heeded.shutdown_rests (called : Heeded k .free) (now : String) :
    Returned k.stop.2.previous (k.shutdown now).2 ∧ Silent k.stop.2 (k.shutdown now).2 ∧
      AtRest (k.shutdown now).2 := by
  obtain ⟨⟨moves, idle, punctual, same⟩, _, returned⟩ := called.reachable.lapses_shutdown now
  have others : ∀ m ∈ [] ++ moves, m.isCall = false ∧ m.breaksLog = false := others_of_idle idle
  obtain ⟨_, _, silent, rests⟩ := called.returns_in_time others punctual
  rw [same] at returned ⊢
  exact ⟨returned, silent, rests returned⟩

/-- **All actions but one keep to the order**: whoever acts waits for a shutdown to return. -/
theorem Heeded.act (called : Heeded k .free) (now : String) {action : Action}
    (audible : ∀ spared, action ≠ .failLogAfter spared) : Heeded (k.act now action).2 .free := by
  suffices Heeded (k.perform now action).2 .free from this.idles (idles_settle _ now)
  cases action with
  | start => exact called.start
  | stop => exact called.stop
  | wait nanos => exact called.idles (idles_wait k now nanos)
  | shutdown =>
    have waiting : Heeded (k.shutdown now).2 (.waiting k.stop.2.previous) :=
      called.shutdown.handOver.idles (idles_shutdown k now)
    exact waiting.returns (called.shutdown_rests now).1
  | failLogAfter spared => exact absurd rfl (audible spared)
  | refuse faults => exact called.other (.act (.refuse faults) rfl) rfl rfl
  | accept gated stubborn => exact called.other (.act (.accept gated stubborn) rfl) rfl rfl
  | send socket event => exact called.other (.act (.send socket event) rfl) rfl rfl
  | hangUp socket => exact called.other (.act (.hangUp socket) rfl) rfl rfl
  | openGate socket => exact called.other (.act (.openGate socket) rfl) rfl rfl
  | setBaseUrl url => exact called.other (.act (.setBaseUrl url) rfl) rfl rfl
  | failUrl => exact called.other (.act .failUrl rfl) rfl rfl
  | store operation => exact called.other (.act (.store operation) rfl) rfl rfl

/-- **A shutdown returns within the grace period, and leaves nothing.**  Of any keeper that is
called in order and whose reports are heard: the shutdown that is run says whether a connection was
wanted and takes no longer than a closed socket is waited for; nothing is seen of it after its stop,
and then all runs have ended, no socket is open, and nothing is seen until the next run begins.  And
so does a shutdown between whose steps anything happens but calls, however runs choose, if time does
not pass over the moment at which a run is due: time stays within the grace period while it has not
returned, it has returned once that has passed and all wait, and when it has returned nothing is
left. -/
theorem shutdown_within_grace (called : Heeded k .free) :
    (∀ now, (k.shutdown now).1 = k.link.wanted ∧
      (k.shutdown now).2.clock ≤ k.clock + closeGrace ∧
      Silent k.stop.2 (k.shutdown now).2 ∧ AtRest (k.shutdown now).2) ∧
    (∀ between later, (∀ m ∈ between ++ later, m.isCall = false ∧ m.breaksLog = false) →
      k.stop.2.isPunctual (between ++ .handOver :: later) = true →
      let before := k.stop.2.after between
      let k' := (before.move .handOver).after later
      (¬ Returned before.previous k' → k'.clock ≤ k.clock + closeGrace) ∧
        (k'.Waits → k.clock + closeGrace ≤ k'.clock → Returned before.previous k') ∧
        Silent k.stop.2 k' ∧ (Returned before.previous k' → AtRest k')) := by
  constructor
  · intro now
    have changed : (k.shutdown now).1 = k.link.wanted := by
      rw [← changed_stop]
      simp only [shutdown]
      split <;> rfl
    exact ⟨changed, (called.reachable.lapses_shutdown now).2.1, (called.shutdown_rests now).2⟩
  · intro between later others punctual
    exact called.returns_in_time others punctual

/-- A run drains a stubborn socket, and another one waits for it: one shutdown for both. -/
theorem shutdown_within_grace_chained :
    let go (run : Nat) : Move := .go run .plain ""
    let k := (new .standard "http://a").after
      [.act (.accept false true) rfl, .start, go 0, go 0, .stop, .start]
    let later : List Move := [go 0, .pass closeGrace, go 0, go 1, go 1]
    let k' := (k.stop.2.move .handOver).after later
    (Heeded k .free ∧ k.phase? 0 = some (.reading 0) ∧ k.phase? 1 = some (.waiting 0)) ∧
      ((k.shutdown "").1 = true ∧ (k.shutdown "").2.clock ≤ k.clock + closeGrace ∧
        AtRest (k.shutdown "").2) ∧
      Returned k.stop.2.previous k' ∧ AtRest k' := by
  intro go k later k'
  have prepared : Heeded ((new .standard "http://a").move (.act (.accept false true) rfl)) .free :=
    .other _ (.new .standard "http://a") rfl rfl
  have reads : Heeded ((new .standard "http://a").after
      [.act (.accept false true) rfl, .start, go 0, go 0]) .free :=
    .other (go 0) (.other (go 0) prepared.start rfl rfl) rfl rfl
  have called : Heeded k .free := reads.stop.start
  obtain ⟨runs, schedules⟩ := shutdown_within_grace called
  obtain ⟨changed, inTime, _, rests⟩ := runs ""
  have others : ∀ m ∈ later, m.isCall = false ∧ m.breaksLog = false := by
    intro m mem
    simp only [later, List.mem_cons, List.not_mem_nil, or_false] at mem
    rcases mem with rfl | rfl | rfl | rfl | rfl <;> exact ⟨rfl, rfl⟩
  have punctual : k.stop.2.isPunctual ([] ++ .handOver :: later) = true := by decide +kernel
  have waits : k'.Waits := by decide +kernel
  have late : k.clock + closeGrace ≤ k'.clock := by decide +kernel
  obtain ⟨_, returns, _, leaves⟩ := schedules [] later others punctual
  have returned := returns waits late
  refine ⟨⟨called, ?_, ?_⟩, ⟨changed.trans ?_, inTime, rests⟩, returned, leaves returned⟩
  all_goals decide +kernel

/-- A shutdown has taken the run that drains its socket, and a second one comes while it waits: that
has nobody to wait for, and returns while the run has not ended. -/
theorem not_forall_shutdown_rests :
    ¬ ∀ moves : List Move, (∀ m ∈ moves, m.breaks = false) →
      AtRest (((new .standard "http://a").after moves).shutdown "").2 := by
  intro always
  let moves : List Move := [.act (.accept false true) rfl, .start, .go 0 .plain "",
    .go 0 .plain "", .stop, .handOver]
  have rests := always moves (by decide)
  have going : (((new .standard "http://a").after moves).shutdown "").2.hasEnded 0 = false := by
    decide +kernel
  have ended := rests.ended 0
  rw [going] at ended
  cases ended

end VoiceTicket.Keeper
