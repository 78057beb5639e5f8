/-
  One socket at a time.

  1. **Data** — a `Caller` makes one call after the other and waits for its shutdowns;
     `Orderly k c`: such a caller, who stands at `c`, can have led to `k`, and nothing was made to
     fail; `Heeded k c`: the same, but the base URL may have failed.

  2. **Specification** — at every moment at most one socket is open, the closer at hand and an
     armed retry exclude each other, and a keeper that wants no connection has no socket open.

  3. **Crux** — the place for the closer does not tell whose closer it is.  What it holds is fixed
     by what the current run waits for (`Phase.Fits`), and a run that is not the current one finds
     it empty, since no run that has begun to make attempts leaves another one going behind it
     (`Chained`).
-/
import VoiceTicket.Proofs.Keeper.Overtaking
import VoiceTicket.Proofs.Keeper.Silence

namespace VoiceTicket

/-- What the bookkeeping and the place for the closer are while the current run is in a phase. -/
def Phase.Fits (live : Option Nat) (l : Link) : Phase → Prop
  | .reading socket => live = some socket ∧ l.pending = none
  | .sleeping _ => live = none ∧ l.connected = false
  | .waiting _ | .attempting | .connecting _ | .draining .. | .ended =>
    live = none ∧ l.connected = false ∧ l.pending = none

theorem Phase.Fits.live_or_pending {live : Option Nat} {l : Link} {p : Phase}
    (fits : p.Fits live l) : live = none ∨ l.pending = none := by
  cases p with
  | reading => exact Or.inr fits.2
  | _ => exact Or.inl fits.1

theorem Phase.Fits.live_of_connected {live : Option Nat} {l : Link} {p : Phase}
    (fits : p.Fits live l) (connected : l.connected = true) : live.isSome = true := by
  cases p with
  | reading => rw [fits.1]; rfl
  | sleeping =>
    rw [fits.2] at connected
    cases connected
  | _ =>
    rw [fits.2.1] at connected
    cases connected

namespace Keeper

variable {k k' : Keeper} {now : String} {run : Nat} {r : Run}

/-! ## Sockets and their closer in a turn -/

theorem isOpenAt_readNext? {socket : Nat} {e : SocketEvent}
    (h : k.readNext? socket = some (e, k')) (other : Nat) :
    k'.isOpenAt other = k.isOpenAt other := by
  obtain ⟨s, s', found, next, rfl⟩ := readNext?_eq h
  simp only [isOpenAt, modifySocket, List.getElem?_modify]
  by_cases same : socket = other
  · subst same
    simp [found, Socket.isOpen_next next]
  · simp [same]

theorem isOpenAt_openSocket {socket other : Nat} (ne : socket ≠ other) :
    (k.openSocket socket).isOpenAt other = k.isOpenAt other := by
  simp only [isOpenAt, openSocket, modifySocket, List.getElem?_modify]
  simp [ne]

theorem live_readNext? {socket : Nat} {e : SocketEvent}
    (h : k.readNext? socket = some (e, k')) : k'.live = k.live := by
  obtain ⟨_, _, _, _, rfl⟩ := readNext?_eq h
  rfl

theorem link_readNext? {socket : Nat} {e : SocketEvent}
    (h : k.readNext? socket = some (e, k')) : k'.link = k.link := by
  obtain ⟨_, _, _, _, rfl⟩ := readNext?_eq h
  rfl

/-- All that is open has its closer at hand. -/
def Covered (k : Keeper) : Prop := ∀ socket, k.isOpenAt socket = true → k.live = some socket

theorem Covered.of_le (covered : Covered k) (live : k'.live = k.live)
    (le : ∀ socket, k'.isOpenAt socket = true → k.isOpenAt socket = true) : Covered k' := by
  intro socket isOpen
  rw [live]
  exact covered socket (le socket isOpen)

/-- Once the closer at hand is run nothing is open. -/
theorem isOpenAt_release_of_covered (covered : Covered k) (socket : Nat) :
    k.release.isOpenAt socket = false := by
  rw [isOpenAt_release]
  cases isOpen : k.isOpenAt socket with
  | false => rfl
  | true => simp [covered socket isOpen]

theorem Covered.release (covered : Covered k) : Covered k.release := by
  intro socket isOpen
  rw [isOpenAt_release_of_covered covered] at isOpen
  cases isOpen

theorem live_release (k : Keeper) : k.release.live = none := by
  rw [release_eq]

/-- A run that is over leaves the closer at hand alone, if there is none while the run reads. -/
theorem Turn.sockets_of_over (turn : Turn k now run r k') (outdated : k.isCurrent run = false)
    (bare : ∀ socket, r.phase = .reading socket → k.live = none) :
    k'.live = k.live ∧ ∀ socket, k'.isOpenAt socket = true → k.isOpenAt socket = true := by
  have never {P : Prop} (current : k.isCurrent run = true) : P := by
    rw [outdated] at current
    cases current
  have read_release {k₁ : Keeper} {socket : Nat} {e : SocketEvent}
      (phase : r.phase = .reading socket) (read : k.readNext? socket = some (e, k₁)) :
      k₁.release.live = k.live ∧
        ∀ socket, k₁.release.isOpenAt socket = true → k.isOpenAt socket = true := by
    rw [release_of_none ((live_readNext? read).trans (bare socket phase))]
    exact ⟨live_readNext? read, fun other isOpen => isOpenAt_readNext? read other ▸ isOpen⟩
  cases turn with
  | resumed | quit | unasked => exact ⟨rfl, fun _ => id⟩
  | @late socket =>
    refine ⟨rfl, fun other isOpen => ?_⟩
    have closed : ((k.openSocket socket).closeSocket socket).isOpenAt other = true := isOpen
    rw [isOpenAt_closeSocket, Bool.and_eq_true, bne_iff_ne] at closed
    rw [← isOpenAt_openSocket closed.2]
    exact closed.1
  | dropped phase _ read => exact read_release phase read
  | @left socket k₁ phase _ read =>
    rcases read with rfl | ⟨e, read⟩
    · show k₁.release.live = _ ∧ ∀ other, k₁.release.isOpenAt other = true → _
      rw [release_of_none (bare socket phase)]
      exact ⟨rfl, fun _ => id⟩
    · exact read_release phase read
  | skipped _ read =>
    exact ⟨live_readNext? read, fun other isOpen => isOpenAt_readNext? read other ▸ isOpen⟩
  | drained _ read =>
    rcases read with ⟨rfl, _⟩ | ⟨reason, read⟩
    · exact ⟨rfl, fun _ => id⟩
    · have live := live_readNext? read
      exact ⟨live, fun other isOpen => isOpenAt_readNext? read other ▸ isOpen⟩
  | dialled _ current | rejected _ current | refused _ current | registered _ current
  | heard _ current | erred _ current | closed _ current | woken _ _ current
  | failed _ current => exact never current

/-- What is not to fail is not made to fail by a run. -/
structure Intact (k : Keeper) : Prop where
  asked : k.urlFails = false
  heeded : k.logFails = none

theorem Intact.readNext? {socket : Nat} {e : SocketEvent} (intact : Intact k)
    (h : k.readNext? socket = some (e, k')) : Intact k' := by
  obtain ⟨_, _, _, _, rfl⟩ := readNext?_eq h
  exact ⟨intact.asked, intact.heeded⟩

theorem Intact.release (intact : Intact k) : Intact k.release := by
  rw [release_eq]
  exact ⟨intact.asked, intact.heeded⟩

/-- What is not to fail in `k` is not to fail in `k'`. -/
structure Spares (k k' : Keeper) : Prop where
  asked : k.urlFails = false → k'.urlFails = false
  heeded : k.logFails = none → k'.logFails = none

theorem Spares.of_same (url : k'.urlFails = k.urlFails) (log : k'.logFails = k.logFails) :
    Spares k k' :=
  ⟨fun asked => url.trans asked, fun heeded => log.trans heeded⟩

theorem Spares.trans {k₁ k₂ k₃ : Keeper} (h : Spares k₁ k₂) (h' : Spares k₂ k₃) : Spares k₁ k₃ :=
  ⟨h'.asked ∘ h.asked, h'.heeded ∘ h.heeded⟩

theorem spares_readNext? {socket : Nat} {e : SocketEvent}
    (h : k.readNext? socket = some (e, k')) : Spares k k' := by
  obtain ⟨_, _, _, _, rfl⟩ := readNext?_eq h
  exact .of_same rfl rfl

theorem spares_release (k : Keeper) : Spares k k.release := by
  rw [release_eq]
  exact .of_same rfl rfl

theorem spares_told (k : Keeper) (signals : List Signal) : Spares k (k.told signals) :=
  ⟨id, heeded_told⟩

theorem spares_down (k : Keeper) (level : Level) (message : String) :
    Spares k (k.down level message) :=
  ⟨id, heeded_down⟩

theorem Retry.spares (retry : Retry k run k') : Spares k k' := by
  cases retry with
  | armed => exact ⟨id, heeded_told⟩
  | overflow => exact .of_same rfl rfl
  | failed => exact ⟨id, fun _ => rfl⟩

/-- A run that takes its turn makes nothing fail, unless its report fails. -/
theorem Turn.spares (turn : Turn k now run r k') (heeded : k.logFails = none) : Spares k k' := by
  cases turn with
  | unasked => exact ⟨fun _ => rfl, id⟩
  | resumed | quit | woken | late => exact .of_same rfl rfl
  | dialled | registered => exact ⟨id, heeded_told⟩
  | rejected _ _ _ retry => exact (spares_told k _).trans retry.spares
  | refused _ _ retry => exact (spares_down k _ _).trans retry.spares
  | heard _ _ read | erred _ _ read =>
    exact (spares_readNext? read).trans ⟨id, heeded_told⟩
  | skipped _ read => exact spares_readNext? read
  | @closed _ _ k₁ _ _ _ read retry =>
    have released := (spares_readNext? read).trans (spares_release k₁)
    exact (released.trans (spares_down _ _ _)).trans retry.spares
  | @dropped _ _ k₁ _ _ read =>
    have released := (spares_readNext? read).trans (spares_release k₁)
    exact released.trans (.of_same rfl rfl)
  | @left socket k₁ _ _ read =>
    have left : Spares k₁ (k₁.leave run socket) := (spares_release k₁).trans (.of_same rfl rfl)
    rcases read with rfl | ⟨e, read⟩
    · exact left
    · exact (spares_readNext? read).trans left
  | drained _ read =>
    rcases read with ⟨rfl, _⟩ | ⟨reason, read⟩
    · exact .of_same rfl rfl
    · exact (spares_readNext? read).trans (.of_same rfl rfl)
  | failed _ _ fails => exact absurd heeded fails

theorem Turn.intact (turn : Turn k now run r k') (intact : Intact k) : Intact k' := by
  have spares := turn.spares intact.heeded
  exact ⟨spares.asked intact.asked, spares.heeded intact.heeded⟩

/-! ## The current run -/

/-- All that is open has its closer at hand, and the rest is as it is while the run is in its
phase. -/
def Fitting (k : Keeper) (run : Nat) : Prop :=
  Covered k ∧ ∃ p, k.phase? run = some p ∧ p.Fits k.live k.link

theorem fitting_setPhase {p : Phase} (h : k.runs[run]? = some r) (covered : Covered k)
    (fits : p.Fits k.live k.link) : Fitting (k.setPhase run p) run := by
  refine ⟨covered, p, ?_, fits⟩
  simp [phase?, setPhase, h]

/-- Whether a retry can be armed or not, it fits that no closer is at hand. -/
theorem Retry.fitting (retry : Retry k run k') (h : k.runs[run]? = some r) (covered : Covered k)
    (bare : k.live = none) (unarmed : k.link.pending = none) (heeded : k.logFails = none) :
    Fitting k' run := by
  cases retry with
  | armed => exact fitting_setPhase (r := r) h covered ⟨bare, rfl⟩
  | overflow => exact fitting_setPhase (r := r) h covered ⟨bare, rfl, unarmed⟩
  | failed _ fails =>
    rw [heeded] at fails
    cases fails

/-- The current run stays with its closer, and gives it up before it arms a retry. -/
theorem Turn.fitting_of_current (h : k.runs[run]? = some r) (turn : Turn k now run r k')
    (current : k.isCurrent run = true) (attached : r.cancelled = false)
    (heeded : k.logFails = none) (covered : Covered k)
    (fits : r.phase.Fits k.live k.link) : Fitting k' run := by
  have never {P : Prop} (outdated : k.isCurrent run = false) : P := by
    rw [current] at outdated
    cases outdated
  have stays {k₁ : Keeper} {socket : Nat} {e : SocketEvent}
      (read : k.readNext? socket = some (e, k₁)) : Covered k₁ :=
    covered.of_le (live_readNext? read) fun other isOpen => isOpenAt_readNext? read other ▸ isOpen
  have runs {k₁ : Keeper} {socket : Nat} {e : SocketEvent}
      (read : k.readNext? socket = some (e, k₁)) : k₁.runs[run]? = some r := by
    rw [(alike_readNext? read).runs, h]
  cases turn with
  | resumed phase =>
    rw [phase] at fits
    exact fitting_setPhase h covered fits
  | unasked phase =>
    rw [phase] at fits
    exact fitting_setPhase (r := r) h covered fits
  | dialled phase =>
    rw [phase] at fits
    exact fitting_setPhase (r := r) h covered fits
  | rejected phase _ _ retry =>
    rw [phase] at fits
    exact retry.fitting (r := r) h covered fits.1 fits.2.2 (heeded_told heeded)
  | refused phase _ retry =>
    rw [phase] at fits
    exact retry.fitting (r := r) h covered fits.1 fits.2.2 (heeded_down heeded)
  | @registered socket s phase =>
    rw [phase] at fits
    refine fitting_setPhase (r := r) h ?_ ⟨rfl, rfl⟩
    intro other isOpen
    by_cases same : socket = other
    · exact congrArg some same
    · -- No other socket is open: no closer was at hand.
      have before : (k.openSocket socket).isOpenAt other = true := isOpen
      rw [isOpenAt_openSocket same] at before
      rw [covered other before] at fits
      cases fits.1
  | late _ outdated => exact never outdated
  | @heard socket text k₁ phase _ read =>
    have covers := stays read
    have found := phase?_of_run (runs read)
    refine ⟨covers, .reading socket, ?_, ?_⟩
    · rw [← phase]
      exact found
    · rw [phase] at fits
      show (Phase.reading socket).Fits k₁.live k₁.link
      rw [live_readNext? read, link_readNext? read]
      exact fits
  | @erred socket message k₁ phase _ read =>
    have covers := stays read
    have found := phase?_of_run (runs read)
    refine ⟨covers, .reading socket, ?_, ?_⟩
    · rw [← phase]
      exact found
    · rw [phase] at fits
      show k₁.live = some socket ∧ k₁.link.pending = none
      rw [live_readNext? read, link_readNext? read]
      exact fits
  | @closed socket reason k₁ _ phase _ read retry =>
    rw [phase] at fits
    have after := (spares_readNext? read).trans (spares_release k₁)
    refine retry.fitting (r := r) ?_ (stays read).release (live_release k₁) ?_
      (heeded_down (after.heeded heeded))
    · show k₁.release.runs[run]? = some r
      rw [(alike_release k₁).runs, runs read]
    · show k₁.release.link.pending = none
      rw [release_eq]
      show k₁.link.pending = none
      rw [link_readNext? read]
      exact fits.2
  | dropped _ outdated => exact never outdated
  | left _ outdated =>
    rcases outdated with cancelled | outdated
    · rw [attached] at cancelled
      cases cancelled
    · exact never outdated
  | @skipped socket until_ e k₁ phase read =>
    refine ⟨stays read, _, phase?_of_run (runs read), ?_⟩
    rw [live_readNext? read, link_readNext? read]
    exact fits
  | drained phase read =>
    rw [phase] at fits
    rcases read with ⟨rfl, _⟩ | ⟨reason, read⟩
    · exact fitting_setPhase h covered fits
    · refine fitting_setPhase (runs read) (stays read) ?_
      rw [live_readNext? read, link_readNext? read]
      exact fits
  | quit _ outdated =>
    rcases outdated with cancelled | outdated
    · rw [attached] at cancelled
      cases cancelled
    · exact never outdated
  | woken phase =>
    rw [phase] at fits
    exact fitting_setPhase (r := r) h covered ⟨fits.1, fits.2, rfl⟩
  | failed _ _ fails => exact absurd heeded fails

/-! ## The whole bookkeeping -/

/-- What holds of a keeper that is called in order. -/
structure Single (k : Keeper) : Prop where
  chained : Chained k
  numbered : k.link.run = k.runs.length
  begun : k.link.wanted = true → 0 < k.link.run
  detached : ∀ run r, k.runs[run]? = some r → r.cancelled = true → k.isCurrent run = false
  heeded : k.logFails = none
  covered : Covered k
  bare : k.link.wanted = false → k.live = none ∧ k.Rests
  fits : ∀ run p, k.isCurrent run = true → k.phase? run = some p → p.Fits k.live k.link

theorem single_new (policy : Policy) (baseUrl : String) : Single (new policy baseUrl) where
  chained := (Guarded.new policy baseUrl).chained
  numbered := rfl
  begun := nofun
  detached := nofun
  heeded := rfl
  covered := nofun
  bare := fun _ => ⟨rfl, rfl, rfl, rfl⟩
  fits := nofun

/-- While a connection is wanted the last run is the current one. -/
theorem Single.exists_current (single : Single k) (wanted : k.link.wanted = true) :
    ∃ run r, k.isCurrent run = true ∧ k.runs[run]? = some r ∧ run + 1 = k.runs.length := by
  have begun := single.begun wanted
  have numbered := single.numbered
  have lt : k.runs.length - 1 < k.runs.length := by omega
  refine ⟨k.runs.length - 1, k.runs[k.runs.length - 1], ?_, List.getElem?_eq_getElem lt, by omega⟩
  rw [isCurrent, Link.isCurrent, wanted, Bool.true_and, beq_iff_eq]
  omega

/-- A run that still reads and is not the current one finds no closer at hand. -/
theorem Single.bare_of_over (single : Single k) (outdated : k.isCurrent run = false) {p : Phase}
    (phase : k.phase? run = some p) (going : p ≠ .ended) : k.live = none := by
  cases wanted : k.link.wanted with
  | false => exact (single.bare wanted).1
  | true =>
    obtain ⟨last, r', current, found, isLast⟩ := single.exists_current wanted
    have fits := single.fits last r'.phase current (phase?_of_run found)
    have before : run < last := by
      have exists_ : run < k.runs.length := by
        rw [← Nat.not_le, ← phase?_eq_none_iff, phase]
        nofun
      have other : run ≠ last := by
        rintro rfl
        rw [current] at outdated
        cases outdated
      omega
    -- The current run still waits: the run behind it has not ended.
    cases waits : r'.phase.isWaiting with
    | true =>
      cases waiting : r'.phase with
      | waiting earlier =>
        rw [waiting] at fits
        exact fits.1
      | _ => simp [waiting, Phase.isWaiting] at waits
    | false =>
      have ended := single.chained.past last _ (phase?_of_run found) waits run before
      rcases hasEnded_iff.1 ended with none | ended
      · rw [phase] at none
        cases none
      · rw [phase] at ended
        exact absurd (Option.some.inj ended) going

/-! ## Every move -/

theorem Single.begun_of_free (single : Single k) (unwanted : k.link.wanted = false)
    (free : k.Free) : Single k.begun := by
  obtain ⟨bare, _⟩ := single.bare unwanted
  have numbered := single.numbered
  refine ⟨single.chained.begun free, ?_, fun _ => Nat.succ_pos _, ?_,
    single.heeded, single.covered, nofun, ?_⟩
  · simp [Keeper.begun, numbered]
  · intro run r found cancelled
    rcases run_begun found with ⟨lt, _⟩ | ⟨_, rfl⟩
    · show (true && k.link.run + 1 == run + 1) = false
      simp
      omega
    · cases cancelled
  · intro run p current phase
    have same : k.runs.length = run := by
      have : (true && k.link.run + 1 == run + 1) = true := current
      simp at this
      omega
    rw [phase?_begun, if_pos same.symm] at phase
    cases Option.some.inj phase
    cases k.previous <;> exact ⟨bare, rfl, rfl⟩

theorem Single.stopped (single : Single k) : Single k.stopped := by
  have outdated (run : Nat) : k.stopped.isCurrent run = false :=
    isCurrent_of_unwanted (wanted_stop k.link) run
  have rests := rests_stopped fun unwanted => (single.bare unwanted).2
  refine ⟨single.chained.of_phases (phase_cancelLast k) (.inl rfl), ?_, ?_,
    fun run _ _ _ => outdated run, single.heeded, ?_,
    fun _ => ⟨rfl, rests⟩, ?_⟩
  · simp [Keeper.stopped, cancelLast, single.numbered]
  · intro wanted
    rw [rests.unwanted] at wanted
    cases wanted
  · intro socket isOpen
    have after : k.release.isOpenAt socket = true := isOpen
    rw [isOpenAt_release_of_covered single.covered] at after
    cases after
  · intro run p current
    rw [outdated run] at current
    cases current

theorem Single.handedOver (single : Single k) : Single { k with previous := none } :=
  { single with
    chained := single.chained.of_phases (fun _ => rfl) (.inr rfl)
    heeded := single.heeded
    bare := fun unwanted => ⟨(single.bare unwanted).1, (single.bare unwanted).2.of_link rfl⟩ }

theorem Single.aside {m : Move} (single : Single k) (aside : Aside k m k')
    (heeded : k'.logFails = none) : Single k' := by
  have current (run : Nat) : k'.isCurrent run = k.isCurrent run := by
    rw [isCurrent, isCurrent, aside.link]
  have phases (i : Nat) : k'.phase? i = k.phase? i := by
    rw [phase?, phase?, aside.runs]
  refine ⟨single.chained.of_phases phases (.inl aside.previous), ?_, ?_, ?_, heeded, ?_, ?_,
    ?_⟩
  · rw [aside.link, aside.runs, single.numbered]
  · rw [aside.link]
    exact single.begun
  · intro run r found
    rw [current]
    exact single.detached run r (aside.runs ▸ found)
  · exact single.covered.of_le aside.live fun socket isOpen => aside.opened socket ▸ isOpen
  · rw [aside.link, aside.live]
    intro unwanted
    exact ⟨(single.bare unwanted).1, (single.bare unwanted).2.of_link aside.link⟩
  · intro run p isCurrent phase
    rw [aside.live, aside.link]
    exact single.fits run p (current run ▸ isCurrent) (phases run ▸ phase)

theorem eq_of_isCurrent {i j : Nat} (first : k.isCurrent i = true) (second : k.isCurrent j = true) :
    i = j := by
  simp only [isCurrent, Link.isCurrent, Bool.and_eq_true, beq_iff_eq] at first second
  omega

theorem Single.turn (single : Single k) (h : k.runs[run]? = some r)
    (turn : Turn k now run r k') : Single k' := by
  obtain ⟨p, shift⟩ := turn.shift h
  have same (i : Nat) : k'.isCurrent i = k.isCurrent i := by
    rw [isCurrent, isCurrent, Link.isCurrent, Link.isCurrent, shift.wanted, shift.number]
  have numbered : k'.link.run = k'.runs.length := by
    rw [shift.number, shift.runs, List.length_modify, single.numbered]
  have begun : k'.link.wanted = true → 0 < k'.link.run := by
    rw [shift.wanted, shift.number]
    exact single.begun
  have detached (i : Nat) (r' : Run) (found : k'.runs[i]? = some r')
      (cancelled : r'.cancelled = true) : k'.isCurrent i = false := by
    rw [shift.runs, List.getElem?_modify, Option.map_eq_map, Option.map_eq_some_iff] at found
    obtain ⟨r₀, found, rfl⟩ := found
    rw [same]
    refine single.detached i r₀ found ?_
    split at cancelled <;> exact cancelled
  have heeded := (turn.spares single.heeded).heeded single.heeded
  cases current : k.isCurrent run with
  | true =>
    have attached : r.cancelled = false := by
      cases cancelled : r.cancelled with
      | false => rfl
      | true => rw [single.detached run r h cancelled] at current; cases current
    have fits := single.fits run r.phase current (phase?_of_run h)
    obtain ⟨covered, p', phase, fits'⟩ :=
      turn.fitting_of_current h current attached single.heeded single.covered fits
    refine ⟨single.chained.turn h turn, numbered, begun, detached, heeded, covered, ?_, ?_⟩
    · intro unwanted
      rw [shift.wanted, wanted_of_isCurrent current] at unwanted
      cases unwanted
    · intro i q isCurrent phase'
      rw [same] at isCurrent
      rw [eq_of_isCurrent isCurrent current, phase] at phase'
      cases phase'
      exact fits'
  | false =>
    -- Whatever a run that is over still does, the closer at hand is not its own.
    obtain ⟨live, le⟩ := turn.sockets_of_over current fun socket reading =>
      single.bare_of_over current (phase?_of_run h) (by simp [reading])
    have link := (turn.silent current).link
    refine ⟨single.chained.turn h turn, numbered, begun, detached, heeded,
      single.covered.of_le live le, ?_, ?_⟩
    · rw [link, live]
      intro unwanted
      exact ⟨(single.bare unwanted).1, (single.bare unwanted).2.of_link link⟩
    · intro i q isCurrent phase
      rw [same] at isCurrent
      rw [shift.phase?_eq h, if_neg] at phase
      · rw [live, link]
        exact single.fits i q isCurrent phase
      · rintro rfl
        rw [current] at isCurrent
        cases isCurrent

theorem Single.moved {m : Move} (single : Single k) (moved : Moved k m k')
    (free : m = .start → k.Free) (heeded : k'.logFails = none) : Single k' := by
  cases moved with
  | ignored | waits => exact single
  | begun unwanted => exact single.begun_of_free unwanted (free rfl)
  | stopped => exact single.stopped
  | handedOver => exact single.handedOver
  | turns h turn => exact single.turn h turn
  | aside aside => exact single.aside aside heeded

/-! ## Calls in order -/

/-- Where a caller stands who makes one call after the other. -/
inductive Caller where
  | free
  /-- A shutdown has stopped the keeper, and has not taken the run that it is to wait for. -/
  | stopping
  /-- A shutdown waits for a run, if there is one. -/
  | waiting (awaited : Option Nat)

/-- The keeper was called in order, and nothing was made to fail: a shutdown returns before the
next call is made.  The rest happens as it likes. -/
inductive Orderly : Keeper → Caller → Prop where
  | new (policy : Policy) (baseUrl : String) : Orderly (new policy baseUrl) .free
  | start {k : Keeper} (orderly : Orderly k .free) : Orderly (k.move .start) .free
  | stop {k : Keeper} (orderly : Orderly k .free) : Orderly (k.move .stop) .free
  | shutdown {k : Keeper} (orderly : Orderly k .free) : Orderly (k.move .stop) .stopping
  | handOver {k : Keeper} (orderly : Orderly k .stopping) :
      Orderly (k.move .handOver) (.waiting k.takePrevious.1)
  | returns {k : Keeper} {awaited : Option Nat} (orderly : Orderly k (.waiting awaited))
      (ended : ∀ run, awaited = some run → k.hasEnded run = true) : Orderly k .free
  | other {k : Keeper} {c : Caller} (m : Move) (orderly : Orderly k c) (uncalled : m.isCall = false)
      (whole : m.breaks = false) : Orderly (k.move m) c

/-- The keeper was called in order, and no report was made to fail; there may have been no base URL
to be had. -/
inductive Heeded : Keeper → Caller → Prop where
  | new (policy : Policy) (baseUrl : String) : Heeded (new policy baseUrl) .free
  | start {k : Keeper} (called : Heeded k .free) : Heeded (k.move .start) .free
  | stop {k : Keeper} (called : Heeded k .free) : Heeded (k.move .stop) .free
  | shutdown {k : Keeper} (called : Heeded k .free) : Heeded (k.move .stop) .stopping
  | handOver {k : Keeper} (called : Heeded k .stopping) :
      Heeded (k.move .handOver) (.waiting k.takePrevious.1)
  | returns {k : Keeper} {awaited : Option Nat} (called : Heeded k (.waiting awaited))
      (ended : ∀ run, awaited = some run → k.hasEnded run = true) : Heeded k .free
  | other {k : Keeper} {c : Caller} (m : Move) (called : Heeded k c) (uncalled : m.isCall = false)
      (audible : m.breaksLog = false) : Heeded (k.move m) c

/-- Nothing makes an entry of the log fail but the move that says so. -/
theorem heeded_move {m : Move} (heeded : k.logFails = none) (audible : m.breaksLog = false) :
    (k.move m).logFails = none := by
  cases m with
  | handOver | pass => exact heeded
  | go run choice now =>
    rcases move_go k run choice now with same | ⟨r, h, turn⟩
    · rw [same, heeded]
    · exact (turn.spares heeded).heeded heeded
  | act action instant =>
    cases action with
    | start =>
      show k.start.2.logFails = none
      cases wanted : k.link.wanted with
      | true => rw [start_of_wanted wanted, heeded]
      | false =>
        rw [start_of_unwanted wanted]
        exact heeded
    | stop =>
      show k.stop.2.logFails = none
      rw [stop_eq]
      exact heeded
    | failLogAfter => cases audible
    | shutdown | wait => cases instant
    | _ => exact heeded

/-- Who takes away the run that the next one has to wait for waits for it. -/
def Caller.Keeps (c : Caller) (k : Keeper) : Prop :=
  k.previous = none →
    (∀ run, k.hasEnded run = true) ∨ ∃ run, c = .waiting (some run) ∧ run + 1 = k.runs.length

/-- Where nobody waits for a run that was taken away, the keeper is free. -/
theorem Caller.Keeps.free {c : Caller} (keeps : c.Keeps k) (idle : ∀ run, c ≠ .waiting (some run)) :
    k.Free := by
  intro unnamed
  rcases keeps unnamed with ended | ⟨run, waits, _⟩
  · exact ended
  · exact absurd waits (idle run)

/-- What has ended stays so, and so does the number of runs. -/
theorem Caller.Keeps.of_later {c : Caller} (keeps : c.Keeps k) (previous : k'.previous = k.previous)
    (length : k'.runs.length = k.runs.length)
    (ended : ∀ run, k.hasEnded run = true → k'.hasEnded run = true) : c.Keeps k' := by
  intro unnamed
  rw [previous] at unnamed
  rcases keeps unnamed with all | ⟨run, waits, last⟩
  · exact Or.inl fun run => ended run (all run)
  · exact Or.inr ⟨run, waits, length ▸ last⟩

/-- While nobody begins a run or takes one away, what was ended stays so. -/
theorem Caller.Keeps.moved {c : Caller} {m : Move} (keeps : c.Keeps k) (moved : Moved k m k')
    (uncalled : m.isCall = false) : c.Keeps k' := by
  cases moved with
  | ignored | begun | stopped | handedOver => cases uncalled
  | waits => exact keeps
  | turns h turn =>
    obtain ⟨p, shift⟩ := turn.shift h
    refine keeps.of_later shift.previous ?_ fun _ => turn.hasEnded h
    rw [shift.runs, List.length_modify]
  | aside aside =>
    refine keeps.of_later aside.previous (by rw [aside.runs]) ?_
    intro run ended
    rw [hasEnded_of_phase?, ended]
    rw [phase?, phase?, aside.runs]

theorem Heeded.single_keeps {c : Caller} (called : Heeded k c) : Single k ∧ c.Keeps k := by
  induction called with
  | new policy baseUrl => exact ⟨single_new policy baseUrl, fun _ => .inl fun _ => rfl⟩
  | @start k _ ih =>
    obtain ⟨single, keeps⟩ := ih
    have heeded := heeded_move (m := .start) single.heeded rfl
    refine ⟨single.moved (moved k .start) (fun _ => keeps.free nofun) heeded, ?_⟩
    rw [move_start]
    cases wanted : k.link.wanted with
    | true =>
      rw [start_of_wanted wanted]
      exact keeps
    | false =>
      rw [start_of_unwanted wanted]
      nofun
  | @stop k _ ih | @shutdown k _ ih =>
    obtain ⟨single, keeps⟩ := ih
    rw [move_stop, stop_eq]
    refine ⟨single.stopped, fun unnamed => .inl fun run => ?_⟩
    rw [← keeps.free nofun unnamed run]
    exact hasEnded_of_phase? (phase_cancelLast k run)
  | @handOver k _ ih =>
    obtain ⟨single, keeps⟩ := ih
    refine ⟨single.handedOver, fun _ => ?_⟩
    cases previous : k.previous with
    | none => exact Or.inl (keeps.free nofun previous)
    | some run =>
      exact Or.inr ⟨run, congrArg Caller.waiting previous, single.chained.last run previous⟩
  | @returns k awaited _ ended ih =>
    obtain ⟨single, keeps⟩ := ih
    refine ⟨single, fun unnamed => .inl ?_⟩
    rcases keeps unnamed with all | ⟨last, waits, isLast⟩
    · exact all
    · -- The run that was awaited is the last one, and has all others behind it.
      intro run
      have lastEnded := ended last (Caller.waiting.inj waits)
      rcases Nat.lt_or_ge last run with after | upTo
      · exact hasEnded_of_length_le (by omega)
      · exact single.chained.all_ended (by omega) lastEnded run upTo
  | @other k c m _ uncalled audible ih =>
    obtain ⟨single, keeps⟩ := ih
    have heeded := heeded_move single.heeded audible
    refine ⟨single.moved (moved k m) ?_ heeded, keeps.moved (moved k m) uncalled⟩
    rintro rfl
    cases uncalled

theorem Orderly.heeded {c : Caller} (orderly : Orderly k c) : Heeded k c := by
  induction orderly with
  | new policy baseUrl => exact .new policy baseUrl
  | start _ called => exact called.start
  | stop _ called => exact called.stop
  | shutdown _ called => exact called.shutdown
  | handOver _ called => exact called.handOver
  | returns _ ended called => exact called.returns ended
  | other m _ uncalled whole called =>
    exact called.other m uncalled (Move.breaksLog_of_whole whole)

theorem Orderly.single_keeps {c : Caller} (orderly : Orderly k c) : Single k ∧ c.Keeps k :=
  orderly.heeded.single_keeps

/-! ## Counting -/

/-- A property that two places of a list cannot both have is counted at most once. -/
theorem countP_le_one {α : Type} {p : α → Bool} {l : List α}
    (alone : ∀ i j : Nat, (l[i]?).any p = true → (l[j]?).any p = true → i = j) :
    l.countP p ≤ 1 := by
  induction l with
  | nil => exact Nat.zero_le 1
  | cons a l ih =>
    have rest : l.countP p ≤ 1 := by
      refine ih fun i j first second => ?_
      have := alone (i + 1) (j + 1) first second
      omega
    rw [List.countP_cons]
    split
    · next holds =>
      have none : l.countP p = 0 := by
        rw [List.countP_eq_zero]
        intro b mem holds'
        obtain ⟨i, found⟩ := List.getElem?_of_mem mem
        have := alone 0 (i + 1) (by simpa using holds) (by simpa [found] using holds')
        omega
      omega
    · exact rest

theorem Covered.openCount_le_one (covered : Covered k) : k.openCount ≤ 1 := by
  apply countP_le_one
  intro i j first second
  have same := (covered i first).symm.trans (covered j second)
  exact Option.some.inj same

theorem Covered.openCount_eq_zero (covered : Covered k) (bare : k.live = none) :
    k.openCount = 0 := by
  rw [openCount, List.countP_eq_zero]
  intro s mem isOpen
  obtain ⟨i, found⟩ := List.getElem?_of_mem mem
  have atHand := covered i (by simp [isOpenAt, found, isOpen])
  rw [bare] at atHand
  cases atHand

/-- **One socket at a time.**  However calls in order, peers, runs and time get in between one
another, at most one socket is open; the closer at hand and an armed retry exclude each other; who
is connected has a closer at hand, and is wanted; and when no connection is wanted no socket is
open, not even while some run still waits for its end. -/
theorem openCount_of_orderly {c : Caller} (orderly : Orderly k c) :
    k.openCount ≤ 1 ∧
      ¬ (k.live.isSome = true ∧ k.link.pending.isSome = true) ∧
      (k.link.connected = true → k.live.isSome = true ∧ k.link.wanted = true) ∧
      (k.link.wanted = false → k.openCount = 0) := by
  obtain ⟨single, _⟩ := orderly.single_keeps
  have one := single.covered.openCount_le_one
  cases wanted : k.link.wanted with
  | false =>
    obtain ⟨bare, rests⟩ := single.bare wanted
    refine ⟨one, ?_, ?_, fun _ => single.covered.openCount_eq_zero bare⟩
    · simp [bare]
    · simp [rests.apart]
  | true =>
    obtain ⟨run, r, current, found, _⟩ := single.exists_current wanted
    have fits := single.fits run r.phase current (phase?_of_run found)
    refine ⟨one, ?_, ?_, nofun⟩
    · rintro ⟨live, pending⟩
      rcases fits.live_or_pending with none | none
      · rw [none] at live
        cases live
      · rw [none] at pending
        cases pending
    · exact fun connected => ⟨fits.live_of_connected connected, rfl⟩

/-- A connection is kept, and its socket is the one that is open. -/
theorem openCount_of_orderly_connected :
    let k := (new .standard "http://a").after
      [.act (.accept false false) rfl, .start, .go 0 .plain "", .go 0 .plain ""]
    Orderly k .free ∧ k.openCount = 1 ∧ k.openCount ≤ 1 ∧
      ¬ (k.live.isSome = true ∧ k.link.pending.isSome = true) ∧
      (k.link.connected = true → k.live.isSome = true ∧ k.link.wanted = true) ∧
      (k.link.wanted = false → k.openCount = 0) := by
  intro k
  have prepared :
      Orderly ((new .standard "http://a").move (.act (.accept false false) rfl)) .free :=
    .other _ (.new .standard "http://a") rfl rfl
  have orderly : Orderly k .free :=
    .other (.go 0 .plain "") (.other (.go 0 .plain "") prepared.start rfl rfl) rfl rfl
  exact ⟨orderly, by decide +kernel, openCount_of_orderly orderly⟩

end Keeper

end VoiceTicket
