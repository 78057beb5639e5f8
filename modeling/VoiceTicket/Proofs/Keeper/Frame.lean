/-
  What a turn leaves alone.

  1. **Specification** — `Turn.shift`: a turn changes the phase of its own run and of no other,
     never to one of waiting for a run; it leaves the calls' side of the bookkeeping alone (which run is
     the last one, whether a connection is wanted); and the run comes out of it with the socket
     that it had, with none, or with the one of the next prepared attempt.  `Turn.silent`: a run
     that is not the current one changes nothing that can be seen from outside.

  2. **Crux** — both are read off the list of turns once; the invariants of the other modules rest
     on them and not on the list.
-/
import VoiceTicket.Proofs.Keeper.Turn

namespace VoiceTicket

namespace Keeper

/-! ## Phases -/

theorem modify_phase_self {k : Keeper} {run : Nat} {r : Run} (h : k.runs[run]? = some r) :
    k.runs.modify run (fun x => { x with phase := r.phase }) = k.runs := by
  apply List.ext_getElem?
  intro i
  rw [List.getElem?_modify]
  by_cases hi : run = i
  · subst hi
    rw [h]
    simp
  · cases k.runs[i]? <;> simp [hi]

/-- How a turn shows in the phase `p` that it leaves its run in. -/
structure Shift (k : Keeper) (run : Nat) (r : Run) (p : Phase) (k' : Keeper) : Prop where
  runs : k'.runs = k.runs.modify run fun x => { x with phase := p }
  awake : p.isWaiting = false
  policy : k'.policy = k.policy
  previous : k'.previous = k.previous
  wanted : k'.link.wanted = k.link.wanted
  number : k'.link.run = k.link.run
  clock : k'.clock = k.clock
  sockets : k'.sockets.length = k.sockets.length
  socket : (k'.dials = k.dials ∧ (p.socket? = none ∨ p.socket? = r.phase.socket?)) ∨
    (k'.dials = k.dials.tail ∧ p = .connecting k.dials.head?)

variable {k k' : Keeper} {now : String} {run : Nat} {r : Run}

/-- Nothing has happened to what the calls see, and nothing to the sockets but what does not change
their number. -/
theorem Shift.of_alike {k₀ : Keeper} (rest : Alike k k₀) {p : Phase}
    (awake : p.isWaiting = false) (socket : p.socket? = none ∨ p.socket? = r.phase.socket?) :
    Shift k run r p (k₀.setPhase run p) where
  runs := by rw [← rest.runs]; rfl
  awake := awake
  policy := rest.policy
  previous := rest.previous
  wanted := rest.wanted
  number := rest.number
  clock := rest.clock
  sockets := rest.sockets
  socket := .inl ⟨rest.dials, socket⟩

/-- The same where the run stays in its phase. -/
theorem Shift.of_staying {k₀ : Keeper} (h : k.runs[run]? = some r) (rest : Alike k k₀)
    (awake : r.phase.isWaiting = false) : Shift k run r r.phase k₀ where
  runs := by rw [rest.runs, modify_phase_self h]
  awake := awake
  policy := rest.policy
  previous := rest.previous
  wanted := rest.wanted
  number := rest.number
  clock := rest.clock
  sockets := rest.sockets
  socket := .inl ⟨rest.dials, .inr rfl⟩

theorem Retry.shift {k₀ : Keeper} (rest : Alike k k₀) (retry : Retry k₀ run k') :
    ∃ p, Shift k run r p k' := by
  cases retry with
  | armed =>
    refine ⟨_, .of_alike (rest.trans ?_) rfl (.inl rfl)⟩
    exact ⟨rfl, rfl, rfl, rfl, rfl, rfl, rfl, rfl, rfl, rfl⟩
  | overflow =>
    refine ⟨_, .of_alike (rest.trans ?_) rfl (.inl rfl)⟩
    exact ⟨rfl, rfl, rfl, rfl, rfl, rfl, rfl, rfl, rfl, rfl⟩
  | failed =>
    refine ⟨_, .of_alike (rest.trans ?_) rfl (.inl rfl)⟩
    exact ⟨rfl, rfl, rfl, rfl, rfl, rfl, rfl, rfl, rfl, rfl⟩

/-- **What a turn does to the runs**: it changes the phase of its own. -/
theorem Turn.shift (h : k.runs[run]? = some r) (turn : Turn k now run r k') :
    ∃ p, Shift k run r p k' := by
  cases turn with
  | resumed => exact ⟨_, .of_alike (.refl k) rfl (.inl rfl)⟩
  | unasked =>
    refine ⟨_, .of_alike ?_ rfl (.inl rfl)⟩
    exact ⟨rfl, rfl, rfl, rfl, rfl, rfl, rfl, rfl, rfl, rfl⟩
  | dialled => exact ⟨_, rfl, rfl, rfl, rfl, rfl, rfl, rfl, rfl, .inr ⟨rfl, rfl⟩⟩
  | rejected _ _ _ retry => exact retry.shift (alike_told k _)
  | refused _ _ retry => exact retry.shift (alike_down k _ _)
  | registered phase =>
    refine ⟨_, .of_alike ?_ rfl (.inr (by rw [phase]; rfl))⟩
    exact (alike_modifySocket k _ _).trans ⟨rfl, rfl, rfl, rfl, rfl, rfl, rfl, rfl, rfl, rfl⟩
  | late phase =>
    refine ⟨_, .of_alike ?_ rfl (.inr (by rw [phase]; rfl))⟩
    exact (alike_modifySocket k _ _).trans (alike_modifySocket _ _ _)
  | heard phase _ read =>
    refine ⟨_, .of_staying h ((alike_readNext? read).trans ?_) (by rw [phase]; rfl)⟩
    exact ⟨rfl, rfl, rfl, rfl, rfl, rfl, rfl, rfl, rfl, rfl⟩
  | erred phase _ read =>
    exact ⟨_, .of_staying h ((alike_readNext? read).trans (alike_down _ _ _)) (by rw [phase]; rfl)⟩
  | closed _ _ read retry =>
    exact retry.shift (((alike_readNext? read).trans (alike_release _)).trans (alike_down _ _ _))
  | dropped _ _ read =>
    exact ⟨_, .of_alike ((alike_readNext? read).trans (alike_release _)) rfl (.inl rfl)⟩
  | @left socket k₁ phase _ read =>
    have rest : Alike k k₁ := by
      rcases read with rfl | ⟨e, read⟩
      · exact .refl _
      · exact alike_readNext? read
    exact ⟨_, .of_alike (rest.trans (alike_release k₁)) rfl (.inr (by rw [phase]; rfl))⟩
  | skipped phase read => exact ⟨_, .of_staying h (alike_readNext? read) (by rw [phase]; rfl)⟩
  | @drained _ _ k₁ _ read =>
    have rest : Alike k k₁ := by
      rcases read with ⟨rfl, _⟩ | ⟨e, read⟩
      · exact .refl _
      · exact alike_readNext? read
    exact ⟨_, .of_alike rest rfl (.inl rfl)⟩
  | quit => exact ⟨_, .of_alike (.refl k) rfl (.inl rfl)⟩
  | woken =>
    refine ⟨_, .of_alike ?_ rfl (.inl rfl)⟩
    exact ⟨rfl, rfl, rfl, rfl, rfl, rfl, rfl, rfl, rfl, rfl⟩
  | failed _ _ _ rest _ => exact ⟨_, .of_alike rest rfl (.inl rfl)⟩

/-- A run that is asked to go on either has to wait or takes its turn. -/
theorem move_go (k : Keeper) (run : Nat) (choice : Choice) (now : String) :
    k.move (.go run choice now) = k ∨
      ∃ r, k.runs[run]? = some r ∧ Turn k now run r (k.move (.go run choice now)) := by
  show (k.advance now run choice).getD k = k ∨ _
  cases step : k.advance now run choice with
  | none => exact Or.inl rfl
  | some k' =>
    cases h : k.runs[run]? with
    | none => simp [advance, h] at step
    | some r =>
      refine Or.inr ⟨r, rfl, ?_⟩
      show Turn k now run r ((k.advance now run choice).getD k)
      rw [step]
      exact turn_of_advance h step

/-! ## What is seen from outside -/

/-- Nothing has happened that is seen from outside: no report was made or has failed, no attempt was
made, no code was counted, and the bookkeeping is the same. -/
structure Silent (k k' : Keeper) : Prop where
  link : k'.link = k.link
  signals : k'.signals = k.signals
  dialled : k'.dialled = k.dialled
  unknownCodes : k'.unknownCodes = k.unknownCodes
  /-- A report that was to fail is still to be made. -/
  logFails : k.logFails ≠ none → k'.logFails ≠ none

theorem Silent.refl (k : Keeper) : Silent k k :=
  ⟨rfl, rfl, rfl, rfl, id⟩

theorem Silent.trans {k₁ k₂ k₃ : Keeper} (h : Silent k₁ k₂) (h' : Silent k₂ k₃) : Silent k₁ k₃ where
  link := h'.link.trans h.link
  signals := h'.signals.trans h.signals
  dialled := h'.dialled.trans h.dialled
  unknownCodes := h'.unknownCodes.trans h.unknownCodes
  logFails := h'.logFails ∘ h.logFails

theorem silent_release (k : Keeper) : Silent k k.release := by
  rw [release_eq]
  exact ⟨rfl, rfl, rfl, rfl, id⟩

theorem silent_readNext? {socket : Nat} {e : SocketEvent}
    (h : k.readNext? socket = some (e, k')) : Silent k k' := by
  obtain ⟨_, _, _, _, rfl⟩ := readNext?_eq h
  exact ⟨rfl, rfl, rfl, rfl, id⟩

theorem silent_setPhase (k : Keeper) (run : Nat) (p : Phase) : Silent k (k.setPhase run p) :=
  ⟨rfl, rfl, rfl, rfl, id⟩

/-- **A run that is over keeps silent**, whatever it still does. -/
theorem Turn.silent (turn : Turn k now run r k') (outdated : k.isCurrent run = false) :
    Silent k k' := by
  -- All turns in which something is reported are those of a current run.
  have never {P : Prop} (current : k.isCurrent run = true) : P := by
    rw [outdated] at current
    cases current
  cases turn with
  | resumed | quit => exact silent_setPhase k run _
  | unasked => exact ⟨rfl, rfl, rfl, rfl, id⟩
  | late => exact ⟨rfl, rfl, rfl, rfl, id⟩
  | dropped _ _ read =>
    exact ((silent_readNext? read).trans (silent_release _)).trans (silent_setPhase _ run _)
  | left _ _ read =>
    rcases read with rfl | ⟨e, read⟩
    · exact (silent_release _).trans (silent_setPhase _ run _)
    · exact ((silent_readNext? read).trans (silent_release _)).trans (silent_setPhase _ run _)
  | skipped _ read => exact silent_readNext? read
  | drained _ read =>
    rcases read with ⟨rfl, _⟩ | ⟨reason, read⟩
    · exact silent_setPhase _ run _
    · exact (silent_readNext? read).trans (silent_setPhase _ run _)
  | dialled _ current | rejected _ current | refused _ current | registered _ current
  | heard _ current | erred _ current | closed _ current | woken _ _ current
  | failed _ current => exact never current

theorem Retry.unread (retry : Retry k run k') (socket : Nat) :
    k'.unread socket = k.unread socket := by
  cases retry <;> rfl

/-- A run takes events from no socket but its own. -/
theorem Turn.unread (turn : Turn k now run r k') {socket : Nat}
    (other : r.phase.socket? ≠ some socket) : k'.unread socket = k.unread socket := by
  have own {own : Nat} (h : r.phase.socket? = some own) : own ≠ socket :=
    fun same => other (same ▸ h)
  cases turn with
  | resumed | unasked | dialled | quit | woken => rfl
  | rejected _ _ _ retry | refused _ _ retry => exact retry.unread socket
  | registered => exact unread_openSocket k _ socket
  | late => exact (unread_closeSocket _ _ socket).trans (unread_openSocket k _ socket)
  | heard phase _ read | erred phase _ read | skipped phase read =>
    have taken := unread_readNext? read (own (by rw [phase]; rfl))
    exact taken
  | closed phase _ read retry =>
    have taken := unread_readNext? read (own (by rw [phase]; rfl))
    exact (retry.unread socket).trans ((unread_release _ socket).trans taken)
  | dropped phase _ read =>
    have taken := unread_readNext? read (own (by rw [phase]; rfl))
    exact (unread_release _ socket).trans taken
  | left phase _ read =>
    rcases read with rfl | ⟨e, read⟩
    · exact unread_release _ socket
    · have taken := unread_readNext? read (own (by rw [phase]; rfl))
      exact (unread_release _ socket).trans taken
  | drained phase read =>
    rcases read with ⟨rfl, _⟩ | ⟨reason, read⟩
    · rfl
    · have taken := unread_readNext? read (own (by rw [phase]; rfl))
      exact taken
  | failed _ _ _ _ others => exact others socket other

end Keeper

end VoiceTicket
