/-
  The indicator that the user sees.

  1. **Data** — the same fact is kept twice: `Link.connected` in the bookkeeping and
     `Snapshot.connected` in the store.  `Keeper.reports` is what the store was told of it.

  2. **Specification** — nobody but the keeper touches the indicator.  Then it is wrong exactly if a
     connection was stopped while it was up and the store has been told nothing of it since
     (`shown_eq_connected_iff`); in particular it never shows less than there is.

  3. **Crux** — whatever a run changes about the connection it reports in the same step, and what it
     reports last is how things are; a stop changes the bookkeeping alone (`Shows`).
-/
import VoiceTicket.Proofs.Keeper.Deeds
import VoiceTicket.Proofs.Store.Frame

namespace VoiceTicket

/-! ## The indicator of the store -/

namespace Store

/-- An operation that is none of the keeper's reports about the connection. -/
def Operation.isApart : Operation → Bool
  | .receive signal => signal.connected?.isNone
  | _ => true

/-- The indicator is what was reported last. -/
theorem connected_receive (s : Store) (signal : Signal) :
    (s.receive signal).snapshot.connected = signal.connected?.getD s.snapshot.connected :=
  (framed_receive s signal).connected

theorem connected_receiveAll (s : Store) (signals : List Signal) :
    (signals.foldl receive s).snapshot.connected =
      (signals.filterMap Signal.connected?).getLast?.getD s.snapshot.connected := by
  induction signals using List.reverseRecOn with
  | nil => rfl
  | append_singleton signals signal ih =>
    rw [List.foldl_append, List.filterMap_append]
    show ((signals.foldl receive s).receive signal).snapshot.connected = _
    rw [connected_receive, ih]
    cases told : signal.connected? <;> simp [told]

/-- Whatever else is done to a store leaves the indicator alone. -/
theorem connected_perform (s : Store) {op : Operation} (apart : op.isApart = true) :
    (s.perform op).2.snapshot.connected = s.snapshot.connected := by
  have silent : op.connected? = none := by
    cases op with
    | receive signal => exact Option.isNone_iff_eq_none.1 apart
    | _ => rfl
  rw [(framed_perform s op).connected, silent]
  rfl

end Store

/-- The move is no report about the connection that somebody else makes in the keeper's place. -/
def Move.isApart : Move → Bool
  | .act (.store op) _ => op.isApart
  | _ => true

namespace Keeper

variable {k k' : Keeper} {now : String} {run : Nat} {r : Run}

/-! ## What the store is told -/

/-- What the store was told of the connection, in order. -/
def reports (k : Keeper) : List Bool := k.signals.filterMap Signal.connected?

/-- Whether the indicator shows a connection. -/
def shown (k : Keeper) : Bool := k.store.snapshot.connected

theorem reports_of_signals (signals : k'.signals = k.signals) : k'.reports = k.reports := by
  rw [reports, reports, signals]

theorem reports_told (k : Keeper) (signals : List Signal) :
    (k.told signals).reports = k.reports ++ signals.filterMap Signal.connected? := by
  simp [reports, told]

/-- An entry of the log says nothing about the connection. -/
theorem reports_told_log (k : Keeper) (level : Level) (message : String) :
    (k.told [.log level message]).reports = k.reports := by
  rw [reports_told]
  exact List.append_nil _

theorem reports_down (k : Keeper) (level : Level) (message : String) :
    (k.down level message).reports = k.reports ++ [false] :=
  reports_told _ _

/-- No frame says anything about the connection. -/
theorem connected?_frame (f : Frame) : f.signals.filterMap Signal.connected? = [] := by
  rw [List.filterMap_eq_nil_iff]
  intro signal mem
  cases f with
  | clarification | loop | raw =>
    rw [List.mem_singleton.1 mem]
    rfl
  | silent => cases mem
  | progress status node =>
    obtain ⟨code, _, mem⟩ := List.mem_flatMap.1 mem
    unfold Progress.signals at mem
    split at mem
    · rcases List.mem_cons.1 mem with rfl | mem
      · rfl
      · rw [List.mem_singleton.1 mem]
        rfl
    · cases mem

/-- How a move bears on the connection and on what is told of it. -/
inductive Announces (k : Keeper) (m : Move) (k' : Keeper) : Prop where
  /-- Not at all. -/
  | same (reports : k'.reports = k.reports) (connected : k'.link.connected = k.link.connected)
  /-- The store is told how it is now. -/
  | told (reports : k'.reports = k.reports ++ [k'.link.connected])
  /-- A connection that is up is stopped, and nothing is told of that. -/
  | stopped (isStop : m = .stop) (up : k.link.connected = true)
      (down : k'.link.connected = false) (reports : k'.reports = k.reports)

/-- A retry says nothing about the connection, which is known to be down. -/
theorem Retry.announces (retry : Retry k run k') (heeded : k.logFails = none) :
    k'.reports = k.reports ∧ k'.link.connected = false := by
  rcases retry.cases_of_heeded heeded with ⟨share, delay, _, rfl⟩ | ⟨share, _, rfl⟩
  · have told := reports_told_log { k with link := k.link.failed.retrying delay } .info
      (retryMessage delay k.link.failed.attempt)
    exact ⟨told, rfl⟩
  · exact ⟨rfl, rfl⟩

theorem reports_readNext? {socket : Nat} {e : SocketEvent}
    (read : k.readNext? socket = some (e, k')) : k'.reports = k.reports :=
  reports_of_signals (silent_readNext? read).signals

/-- **The current run tells the store of whatever it changes**, and how things are then. -/
theorem Goes.announces {deed : Option Deed} (m : Move) (goes : Goes k now run deed k')
    (intact : Intact k) (booked : ∀ p, k.phase? run = some p → p.Booked k.link) :
    Announces k m k' := by
  cases goes with
  | resumed | woken => exact .same rfl rfl
  | @dialled url =>
    have told := reports_told_log k .info ("Connecting to " ++ url.text)
    exact .same told rfl
  | @rejected fault _ phase _ retry =>
    obtain ⟨reports, down⟩ := retry.announces (heeded_told intact.heeded)
    refine .same (reports.trans (reports_told_log k _ _)) (down.trans ?_)
    exact (booked _ phase).1.symm
  | @refused fault _ _ retry =>
    obtain ⟨reports, down⟩ := retry.announces (heeded_down intact.heeded)
    refine .told ?_
    rw [reports, down]
    exact reports_down k _ _
  | @registered socket s =>
    have told := reports_told { k.openSocket socket with link := k.link.opened }
      [.connected true, .log .info "Connected to status channel"]
    exact .told told
  | @heard socket text k₁ _ read =>
    have link := congrArg Link.connected (link_readNext? read)
    refine .same ?_ link
    have told := reports_told
      { k₁ with unknownCodes := k₁.unknownCodes + (Frame.read now text).unknownCodes }
      (Frame.read now text).signals
    rw [connected?_frame, List.append_nil] at told
    have before := reports_readNext? read
    exact told.trans before
  | @erred socket message k₁ _ read =>
    refine .told ?_
    rw [reports_down, reports_readNext? read]
    rfl
  | @closed socket reason k₁ _ _ read retry =>
    have after := (intact.readNext? read).release
    obtain ⟨reports, down⟩ := retry.announces (heeded_down after.heeded)
    refine .told ?_
    rw [reports, down, reports_down, reports_of_signals (silent_release k₁).signals,
      reports_readNext? read]

/-- No connection is up after a stop. -/
theorem Sound.apart_of_stop (sound : Sound k) : k.stopped.link.connected = false :=
  (rests_stopped sound.reachable.rests).apart

/-- **Every move but a stop tells the store of what it changes.** -/
theorem Sound.announces (sound : Sound k) (m : Move) : Announces k m (k.move m) := by
  have moved := moved k m
  generalize k.move m = k' at *
  cases moved with
  | ignored | handedOver | waits => exact .same rfl rfl
  | begun unwanted => exact .same rfl (sound.reachable.rests unwanted).apart.symm
  | stopped =>
    have down := sound.apart_of_stop
    cases up : k.link.connected with
    | true => exact .stopped rfl up down rfl
    | false => exact .same rfl (down.trans up.symm)
  | @turns run choice now r _ h turn =>
    cases current : k.isCurrent run with
    | true =>
      obtain ⟨deed, goes⟩ := sound.goes current h turn
      exact goes.announces _ sound.intact fun p => sound.booked run p current
    | false =>
      have silent := turn.silent current
      exact .same (reports_of_signals silent.signals) (congrArg Link.connected silent.link)
  | aside aside =>
    exact .same (reports_of_signals aside.signals) (congrArg Link.connected aside.link)

/-! ## What the store shows -/

/-- The indicator shows what was reported last. -/
def Heeds (k : Keeper) : Prop := k.shown = k.reports.getLast?.getD false

theorem Heeds.of_same (heeds : Heeds k) (signals : k'.signals = k.signals)
    (shown : k'.shown = k.shown) : Heeds k' := by
  rw [Heeds, shown, reports_of_signals signals]
  exact heeds

theorem Heeds.of_tells (heeds : Heeds k) (tells : Tells k k') : Heeds k' := by
  obtain ⟨said, signals, store⟩ := tells
  have before : k.store.snapshot.connected = k.reports.getLast?.getD false := heeds
  have after : k'.reports = k.reports ++ said.filterMap Signal.connected? := by
    rw [reports, signals, List.filterMap_append, reports]
  rw [Heeds, shown, store, Store.connected_receiveAll, after, List.getLast?_append, before]
  cases (said.filterMap Signal.connected?).getLast? <;> rfl

theorem Heeds.move {m : Move} (heeds : Heeds k) (intact : Intact k) (apart : m.isApart = true) :
    Heeds (k.move m) := by
  cases m with
  | handOver | pass => exact heeds
  | go run choice now =>
    rcases move_go k run choice now with same | ⟨r, h, turn⟩
    · rw [same]
      exact heeds
    · exact heeds.of_tells (turn.tells intact)
  | act action instant =>
    cases action with
    | start =>
      rw [move_start]
      cases wanted : k.link.wanted with
      | true =>
        rw [start_of_wanted wanted]
        exact heeds
      | false =>
        rw [start_of_unwanted wanted]
        exact heeds
    | stop =>
      rw [move_stop, stop_eq]
      exact heeds
    | store op => exact heeds.of_same rfl (k.store.connected_perform apart)
    | shutdown | wait => cases instant
    | _ => exact heeds

theorem Heeds.after {moves : List Move} (heeds : Heeds k) (sound : Sound k)
    (whole : ∀ m ∈ moves, m.breaks = false) (apart : ∀ m ∈ moves, m.isApart = true) :
    Heeds (k.after moves) := by
  induction moves generalizing k with
  | nil => exact heeds
  | cons m moves ih =>
    have first := heeds.move sound.intact (apart m List.mem_cons_self)
    have still := sound.move (whole m List.mem_cons_self)
    exact ih first still (fun m' mem => whole m' (List.mem_cons_of_mem m mem))
      fun m' mem => apart m' (List.mem_cons_of_mem m mem)

/-- What was reported stays reported. -/
theorem Sound.reports_prefix (sound : Sound k) {moves : List Move}
    (whole : ∀ m ∈ moves, m.breaks = false) : k.reports <+: (k.after moves).reports := by
  induction moves generalizing k with
  | nil => exact List.prefix_rfl
  | cons m moves ih =>
    have rest := ih (sound.move (whole m List.mem_cons_self)) fun m' mem =>
      whole m' (List.mem_cons_of_mem m mem)
    refine List.IsPrefix.trans ?_ rest
    cases sound.announces m with
    | same reports | stopped _ _ _ reports => exact reports ▸ List.prefix_rfl
    | told reports =>
      rw [reports]
      exact List.prefix_append _ _

/-! ## When the indicator is wrong -/

/-- A connection was stopped while it was up, and the store was told nothing of it since. -/
def Unreported (k : Keeper) (moves : List Move) : Prop :=
  ∃ before later, moves = before ++ .stop :: later ∧ (k.after before).link.connected = true ∧
    (k.after moves).reports = (k.after before).reports

/-- With one move more: it is that stop, or the stop came before and the move told nothing. -/
theorem unreported_concat {k : Keeper} {moves : List Move} {m : Move} :
    k.Unreported (moves ++ [m]) ↔
      (m = .stop ∧ (k.after moves).link.connected = true ∧
        ((k.after moves).move m).reports = (k.after moves).reports) ∨
      ∃ before later, moves = before ++ .stop :: later ∧ (k.after before).link.connected = true ∧
        ((k.after moves).move m).reports = (k.after before).reports := by
  have last : k.after (moves ++ [m]) = (k.after moves).move m := by simp
  constructor
  · rintro ⟨before, later, split, up, reports⟩
    rw [last] at reports
    rcases concat_eq_append_cons split with ⟨rfl, rfl, rfl⟩ | ⟨later, rfl, same⟩
    · exact Or.inl ⟨rfl, up, reports⟩
    · exact Or.inr ⟨before, later, same, up, reports⟩
  · rintro (⟨rfl, up, reports⟩ | ⟨before, later, rfl, up, reports⟩)
    · exact ⟨moves, [], rfl, up, last ▸ reports⟩
    · refine ⟨before, later ++ [m], by simp, up, ?_⟩
      rw [last, reports]

/-- A report makes up for every stop before it. -/
theorem not_unreported_of_told (policy : Policy) (baseUrl : String) {moves : List Move} {m : Move}
    (whole : ∀ m ∈ moves, m.breaks = false) {up : Bool}
    (told : (((new policy baseUrl).after moves).move m).reports
      = ((new policy baseUrl).after moves).reports ++ [up]) :
    ¬ (new policy baseUrl).Unreported (moves ++ [m]) := by
  rw [unreported_concat, told]
  have longer {k : Keeper} (earlier : k.reports <+: ((new policy baseUrl).after moves).reports) :
      ((new policy baseUrl).after moves).reports ++ [up] ≠ k.reports := by
    intro same
    have := earlier.length_le
    have := congrArg List.length same
    rw [List.length_append, List.length_singleton] at this
    omega
  rintro (⟨_, _, same⟩ | ⟨before, later, split, _, same⟩)
  · exact longer List.prefix_rfl same
  · subst split
    have sound := sound_after policy baseUrl fun m mem => whole m (List.mem_append_left _ mem)
    refine longer ?_ same
    rw [after_append]
    exact sound.reports_prefix fun m mem => whole m (List.mem_append_right _ mem)

/-- What was reported last is how things are, unless a stop was left out. -/
theorem last_report_eq_iff (policy : Policy) (baseUrl : String) {moves : List Move}
    (whole : ∀ m ∈ moves, m.breaks = false) :
    let k := (new policy baseUrl).after moves
    (k.link.connected = true → k.reports.getLast?.getD false = true) ∧
      (k.reports.getLast?.getD false = k.link.connected ↔
        ¬ (new policy baseUrl).Unreported moves) := by
  induction moves using List.reverseRecOn with
  | nil =>
    refine ⟨nofun, fun _ => ?_, fun _ => rfl⟩
    rintro ⟨before, later, split, _⟩
    simp at split
  | append_singleton moves m ih =>
    have before : ∀ m ∈ moves, m.breaks = false := fun m mem => whole m (List.mem_append_left _ mem)
    obtain ⟨shows, iff⟩ := ih before
    have sound := sound_after policy baseUrl before
    have told := @not_unreported_of_told policy baseUrl moves m before
    simp only [after_append, after_cons, after_nil]
    cases sound.announces m with
    | same reports connected =>
      rw [unreported_concat, reports, connected]
      refine ⟨shows, iff.trans (not_congr ?_)⟩
      refine ⟨Or.inr, fun either => either.resolve_left ?_⟩
      -- A stop that changes nothing stops no connection that is up.
      rintro ⟨rfl, up, _⟩
      rw [up, move_stop, stop_eq, sound.apart_of_stop] at connected
      cases connected
    | told reports =>
      rw [reports]
      refine ⟨?_, fun _ => told reports, fun _ => ?_⟩
      all_goals simp
    | stopped isStop up down reports =>
      rw [unreported_concat, reports, down, shows up]
      refine ⟨nofun, nofun, fun none => absurd (Or.inl ⟨isStop, up, rfl⟩) none⟩

/-- **The indicator is wrong exactly after an unreported stop.**  Where nothing is made to fail and
nobody else touches the indicator, it shows every connection that there is; and it shows one that
there is not exactly if a connection was stopped while it was up and the keeper has said nothing of
it since, whatever runs were begun meanwhile. -/
theorem shown_eq_connected_iff (policy : Policy) (baseUrl : String) {moves : List Move}
    (whole : ∀ m ∈ moves, m.breaks = false) (apart : ∀ m ∈ moves, m.isApart = true) :
    let k := (new policy baseUrl).after moves
    (k.link.connected = true → k.shown = true) ∧
      (k.shown = k.link.connected ↔ ¬ (new policy baseUrl).Unreported moves) := by
  intro k
  have heeds : k.shown = k.reports.getLast?.getD false :=
    Heeds.after rfl (sound_new policy baseUrl) whole apart
  rw [heeds]
  exact last_report_eq_iff policy baseUrl whole

/-- A connection that was closed by its peer, was made again, and is up. -/
theorem shown_eq_connected_iff_again :
    let go : Move := .go 0 .plain ""
    let accept : Move := .act (.accept false false) rfl
    let moves : List Move :=
      [accept, accept, .start, go, go, .act (.hangUp 0) rfl, go, .pass 1000000000, go, go, go]
    let k := (new .standard "http://a").after moves
    k.Waits ∧ k.reports = [true, false, true] ∧ k.shown = true ∧
      ¬ (new .standard "http://a").Unreported moves := by
  intro go accept moves k
  obtain ⟨shows, iff⟩ :=
    @shown_eq_connected_iff .standard "http://a" moves (by decide) (by decide)
  have up : ((new .standard "http://a").after moves).link.connected = true := by decide +kernel
  have shown := shows up
  refine ⟨by decide +kernel, by decide +kernel, shown, iff.1 ?_⟩
  exact shown.trans up.symm

/-- A connection is stopped: all runs have ended, and the store still shows it. -/
theorem not_forall_shown_eq_connected :
    ¬ ∀ (policy : Policy) (baseUrl : String) (moves : List Move),
      (∀ m ∈ moves, m.breaks = false) → (∀ m ∈ moves, m.isApart = true) →
      ((new policy baseUrl).after moves).Waits →
      ((new policy baseUrl).after moves).shown
        = ((new policy baseUrl).after moves).link.connected := by
  intro always
  let go : Move := .go 0 .plain ""
  let moves : List Move := [.act (.accept false false) rfl, .start, go, go, .stop, go, go]
  have waits : ((new .standard "http://a").after moves).Waits := by decide +kernel
  have same := always .standard "http://a" moves (by decide) (by decide) waits
  revert same
  decide +kernel

end Keeper

end VoiceTicket
