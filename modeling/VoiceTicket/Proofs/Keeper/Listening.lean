/-
  Every event of a socket is reported, in order and once.

  1. **Data** — `SocketEvent.callbacks` is what an event has to be reported as.  A run takes events
     from its socket (`History.takenFrom`); `Keeper.queued` is all that there is to be taken, a
     peer that has hung up counting as a close at the end.

  2. **Specification** — a socket of the current run is read up to its first close, and what the run
     reports of it is what the events that it has taken stand for; while all wait nothing is left.
     Over the whole life of a keeper, the codes that are counted as unknown are those of the frames
     that were taken.

  3. **Crux** — while a run reads, the events taken and those still unread make up all that has
     arrived (`Listens`); once it has taken a close it never comes back to the socket (`Finished`).
     Only another run can come in between, by closing the socket (`CutOff`), and where calls are
     made in order there is no other run that still goes on; where they are not, an event may be
     lost (`not_forall_served`).
-/
import VoiceTicket.Proofs.Keeper.Arrivals

namespace VoiceTicket

/-! ## What an event has to be reported as -/

/-- What a frame with some text has to be reported as: each code that is known gives a status and a
label, and a frame that is none of the known kinds is reported as it came. -/
def Frame.callbacks (text : String) : Frame → List Signal
  | .clarification session => [.clarification session]
  | .loop event => [.loop event]
  | .progress status node =>
    ((status.toList ++ node.toList).filterMap Progress.ofCode?).flatMap fun progress =>
      [.status progress.status, .label progress.label]
  | .silent => []
  | .raw _ => [.log .info text]

namespace SocketEvent

/-- What an event has to be reported as; `now` is the time for loop events without one. -/
def callbacks (now : String) : SocketEvent → List Signal
  | .text frame => (Frame.read now frame).callbacks frame
  | .error message => [.connected false, .log .error ("Connection error: " ++ message)]
  | .closed reason => [.connected false, .log .warn (Keeper.closedMessage reason)]

/-- The socket has closed. -/
def isClosed : SocketEvent → Bool
  | .closed _ => true
  | .text _ | .error _ => false

/-- The events up to the first close. -/
def throughClosed : List SocketEvent → List SocketEvent
  | [] => []
  | e :: rest => if e.isClosed then [e] else e :: throughClosed rest

theorem throughClosed_of_open {events : List SocketEvent}
    (ongoing : ∀ e ∈ events, e.isClosed = false) : throughClosed events = events := by
  induction events with
  | nil => rfl
  | cons e rest ih =>
    rw [throughClosed, ongoing e List.mem_cons_self]
    simp [ih fun e' mem => ongoing e' (List.mem_cons_of_mem e mem)]

/-- Nothing matters after the first close. -/
theorem throughClosed_append_closed {events rest : List SocketEvent} {e : SocketEvent}
    (ongoing : ∀ e ∈ events, e.isClosed = false) (closed : e.isClosed = true) :
    throughClosed (events ++ e :: rest) = events ++ [e] := by
  induction events with
  | nil => simp [throughClosed, closed]
  | cons e' events ih =>
    rw [List.cons_append, throughClosed, ongoing e' List.mem_cons_self]
    simp [ih fun e mem => ongoing e (List.mem_cons_of_mem e' mem)]

theorem throughClosed_append_of_closed {events rest : List SocketEvent}
    (closed : ∃ e ∈ events, e.isClosed = true) :
    throughClosed (events ++ rest) = throughClosed events := by
  induction events with
  | nil =>
    obtain ⟨_, mem, _⟩ := closed
    cases mem
  | cons e events ih =>
    rw [List.cons_append, throughClosed, throughClosed]
    cases first : e.isClosed with
    | true => rfl
    | false =>
      obtain ⟨e', mem, closed⟩ := closed
      rcases List.mem_cons.1 mem with rfl | mem
      · rw [first] at closed
        cases closed
      · simp [ih ⟨e', mem, closed⟩]

theorem mem_of_mem_throughClosed {events : List SocketEvent} {e : SocketEvent}
    (mem : e ∈ throughClosed events) : e ∈ events := by
  induction events with
  | nil => cases mem
  | cons e' events ih =>
    rw [throughClosed] at mem
    split at mem
    · rw [List.mem_singleton.1 mem]
      exact List.mem_cons_self
    · rcases List.mem_cons.1 mem with rfl | mem
      · exact List.mem_cons_self
      · exact List.mem_cons_of_mem e' (ih mem)

end SocketEvent

/-- A text that is plain is reported verbatim. -/
theorem Frame.text_of_read_eq_raw {now text text' : String}
    (read : Frame.read now text = .raw text') : text' = text := by
  have never (v : Json) : ofObject? now v ≠ some (.raw text') := by
    unfold ofObject? ofUntyped
    split
    · dsimp only
      split <;> simp
    · split
      · cases Session.decode v <;> simp [Except.toOption]
      · split
        · cases LoopEvent.decode _ now v <;> simp [Except.toOption]
        · dsimp only
          split <;> simp
  unfold Frame.read at read
  split at read
  · next members _ =>
    cases object : ofObject? now (.obj members) with
    | none =>
      rw [object] at read
      exact (Frame.raw.inj read).symm
    | some f =>
      rw [object] at read
      exact absurd (object.trans (congrArg some read)) (never _)
  · exact (Frame.raw.inj read).symm

/-- The signals of the codes that are known. -/
theorem Progress.flatMap_signals (codes : List String) :
    codes.flatMap Progress.signals = (codes.filterMap Progress.ofCode?).flatMap fun progress =>
      [.status progress.status, .label progress.label] := by
  induction codes with
  | nil => rfl
  | cons code codes ih =>
    rw [List.flatMap_cons, ih, Progress.signals]
    cases known : Progress.ofCode? code <;> simp [known]

/-- **A frame is reported as it has to be.** -/
theorem Frame.signals_read (now text : String) :
    (Frame.read now text).signals = (Frame.read now text).callbacks text := by
  cases frame : Frame.read now text with
  | progress status node => exact Progress.flatMap_signals _
  | raw text' =>
    rw [Frame.text_of_read_eq_raw frame]
    rfl
  | _ => rfl

/-! ## What was taken -/

/-- The codes that are not known, of the frame that was taken if one was. -/
def Record.unknown (x : Record) : List String :=
  match x.deed with
  | .taking _ (.text text) =>
    (Frame.read x.now text).codes.filter fun code => (Progress.ofCode? code).isNone
  | _ => []

/-- The codes that are not known, of all frames that were taken. -/
def History.unknown (past : History) : List String := past.flatMap Record.unknown

/-- The event that was taken from a socket, with the time for loop events without one. -/
def Record.takenFrom? (socket : Nat) (x : Record) : Option (String × SocketEvent) :=
  match x.deed with
  | .taking source event => if source = socket then some (x.now, event) else none
  | _ => none

/-- The events that were taken from a socket. -/
def History.takenFrom (past : History) (socket : Nat) : List (String × SocketEvent) :=
  past.filterMap (Record.takenFrom? socket)

@[simp] theorem History.takenFrom_nil (socket : Nat) : takenFrom [] socket = [] := rfl

@[simp] theorem History.takenFrom_append (past later : History) (socket : Nat) :
    takenFrom (past ++ later) socket = past.takenFrom socket ++ takenFrom later socket :=
  List.filterMap_append

namespace Keeper

variable {k k' : Keeper} {now : String} {run socket : Nat} {r : Run}

/-! ## Codes that are not known -/

theorem Retry.unknownCodes_eq (retry : Retry k run k') : k'.unknownCodes = k.unknownCodes := by
  cases retry <;> rfl

theorem unknownCodes_readNext? {e : SocketEvent} (read : k.readNext? socket = some (e, k')) :
    k'.unknownCodes = k.unknownCodes :=
  (silent_readNext? read).unknownCodes

/-- A turn counts the codes of the frame that it takes up, if it takes up one. -/
theorem Goes.unknownCodes_eq {deed : Option Deed} (goes : Goes k now run deed k') :
    k'.unknownCodes = k.unknownCodes
      + (History.unknown (deed.map (⟨run, k.clock, now, ·⟩)).toList).length := by
  cases goes with
  | resumed | dialled | woken | registered => rfl
  | rejected _ _ retry | refused _ retry => exact retry.unknownCodes_eq
  | @heard socket text k₁ _ read =>
    show k₁.unknownCodes + (Frame.read now text).unknownCodes = _
    rw [unknownCodes_readNext? read]
    simp [History.unknown, Record.unknown, Frame.unknownCodes]
  | erred _ read =>
    have before := unknownCodes_readNext? read
    exact before
  | @closed socket reason k₁ _ _ read retry =>
    have before := (silent_release k₁).unknownCodes.trans (unknownCodes_readNext? read)
    exact retry.unknownCodes_eq.trans before

/-- The counter counts what is told. -/
theorem Sound.unknownCodes_move (sound : Sound k) (m : Move) :
    (k.move m).unknownCodes
      = k.unknownCodes + (History.unknown (k.record? m).toList).length := by
  rcases m.go_or_still with ⟨run, choice, now, rfl⟩ | still
  · have step := sound.step run choice now
    generalize k.move (.go run choice now) = k' at *
    cases step with
    | waits untold same =>
      rw [untold, same]
      rfl
    | goes _ told _ _ goes =>
      rw [told]
      exact goes.unknownCodes_eq
    | other outdated untold _ turn =>
      rw [untold]
      exact (turn.silent outdated).unknownCodes
  · have step := moved k m
    rw [record?_of_still still]
    generalize k.move m = k' at *
    cases step with
    | ignored | begun | stopped | handedOver => rfl
    | waits | turns => exact absurd rfl (still _ _ _)
    | aside aside => exact aside.unknownCodes

theorem Sound.unknownCodes_after (sound : Sound k) {moves : List Move}
    (whole : ∀ m ∈ moves, m.breaks = false) :
    (k.after moves).unknownCodes
      = k.unknownCodes + (History.unknown (k.records moves)).length := by
  induction moves generalizing k with
  | nil => rfl
  | cons m moves ih =>
    have later := ih (sound.move (whole m List.mem_cons_self)) fun m' mem =>
      whole m' (List.mem_cons_of_mem m mem)
    rw [after_cons, later, sound.unknownCodes_move m, records, History.unknown, History.unknown,
      History.unknown, List.flatMap_append, List.length_append, Nat.add_assoc]

/-! ## All that there is to be taken -/

/-- Whether the peer of a socket has hung up. -/
def hasHungUp (k : Keeper) (socket : Nat) : Bool := (k.sockets[socket]?).any Socket.hungUp

theorem exists_of_hasHungUp (hungUp : k.hasHungUp socket = true) :
    ∃ s, k.sockets[socket]? = some s ∧ s.hungUp = true := by
  unfold hasHungUp at hungUp
  cases found : k.sockets[socket]? with
  | none =>
    rw [found] at hungUp
    cases hungUp
  | some s =>
    rw [found] at hungUp
    exact ⟨s, rfl, hungUp⟩

/-- The close that a peer which has hung up stands for. -/
def ending (k : Keeper) (socket : Nat) : List SocketEvent :=
  if k.hasHungUp socket then [.closed none] else []

/-- All that some moves give a run to take from a socket. -/
def queued (k : Keeper) (socket : Nat) (moves : List Move) : List SocketEvent :=
  k.arrivals socket moves ++ (k.after moves).ending socket

theorem Retry.sockets_eq (retry : Retry k run k') : k'.sockets = k.sockets := by
  cases retry <;> rfl

/-- No run makes a peer hang up. -/
theorem Goes.hasHungUp_eq {deed : Option Deed} (goes : Goes k now run deed k') (socket : Nat) :
    k'.hasHungUp socket = k.hasHungUp socket := by
  have read_eq {k₁ : Keeper} {e : SocketEvent} {source : Nat}
      (read : k.readNext? source = some (e, k₁)) : k₁.hasHungUp socket = k.hasHungUp socket :=
    any_readNext? read (fun _ _ => rfl) socket
  cases goes with
  | resumed | dialled | woken => rfl
  | rejected _ _ retry | refused _ retry =>
    rw [hasHungUp, retry.sockets_eq]
    rfl
  | @registered opened =>
    have opens := any_modifySocket (p := Socket.hungUp) k opened
      (f := fun s => { s with opened := true }) (fun _ => rfl) socket
    exact opens
  | heard _ read | erred _ read =>
    have same := read_eq read
    exact same
  | @closed source reason k₁ _ _ read retry =>
    have released : k₁.release.hasHungUp socket = k₁.hasHungUp socket :=
      any_release k₁ (fun _ => rfl) socket
    rw [hasHungUp, retry.sockets_eq]
    exact released.trans (read_eq read)

/-! ## One socket -/

/-- What an open socket reads next is what is first in its queue, or that its peer has hung up. -/
theorem next?_of_isOpen {s s' : Socket} {e : SocketEvent} (isOpen : s.isOpen = true)
    (next : s.next? = some (e, s')) :
    s.queue = e :: s'.queue ∨
      (s.queue = [] ∧ s'.queue = [] ∧ s.hungUp = true ∧ e = .closed none) := by
  have unclosed : s.closed = false := by
    simp only [Socket.isOpen, Bool.and_eq_true, Bool.not_eq_true'] at isOpen
    exact isOpen.2
  unfold Socket.next? at next
  rw [unclosed, Bool.false_and, if_neg Bool.false_ne_true] at next
  split at next
  · next e' rest queue =>
    cases next
    exact Or.inl queue
  · next empty =>
    split at next
    · next hungUp =>
      cases next
      exact Or.inr ⟨empty, empty, hungUp, rfl⟩
    · cases next

/-- An open socket from which nothing can be read is empty, and its peer has not hung up. -/
theorem next?_eq_none {s : Socket} (none : s.next? = none) : s.queue = [] ∧ s.hungUp = false := by
  unfold Socket.next? at none
  split at none
  · cases none
  · split at none
    · cases none
    · next empty =>
      refine ⟨empty, ?_⟩
      split at none
      · cases none
      · next going => simpa using going

/-- A run that is over closes a socket that it does not hold, or leaves it alone. -/
theorem Turn.socket_of_other (turn : Turn k now run r k') (outdated : k.isCurrent run = false)
    (other : r.phase.socket? ≠ some socket) :
    k'.sockets[socket]? = k.sockets[socket]? ∨
      k'.sockets[socket]? = (k.sockets[socket]?).map fun s => { s with closed := true } := by
  have never {P : Prop} (current : k.isCurrent run = true) : P := by
    rw [outdated] at current
    cases current
  have ne {own : Nat} {p : Phase} (phase : r.phase = p) (holds : p.socket? = some own) :
      own ≠ socket := by
    rintro rfl
    exact other (phase ▸ holds)
  cases turn with
  | resumed | unasked | quit => exact Or.inl rfl
  | late phase =>
    have away := ne phase rfl
    have opens := getElem?_modifySocket_of_ne k away fun s => { s with opened := true }
    exact Or.inl ((getElem?_modifySocket_of_ne _ away _).trans opens)
  | @dropped own reason k₁ phase _ read =>
    rw [← getElem?_readNext? read (ne phase rfl)]
    exact getElem?_release k₁ socket
  | @left own k₁ phase _ read =>
    rcases read with rfl | ⟨e, read⟩
    · exact getElem?_release k₁ socket
    · rw [← getElem?_readNext? read (ne phase rfl)]
      exact getElem?_release k₁ socket
  | skipped phase read => exact Or.inl (getElem?_readNext? read (ne phase rfl))
  | drained phase read =>
    rcases read with ⟨rfl, _⟩ | ⟨reason, read⟩
    · exact Or.inl rfl
    · have same := getElem?_readNext? read (ne phase rfl)
      exact Or.inl same
  | dialled _ current | rejected _ current | refused _ current | registered _ current
  | heard _ current | erred _ current | closed _ current | woken _ _ current
  | failed _ current => exact never current

/-- Callers, peers and time report nothing. -/
theorem signals_of_still {m : Move} (still : ∀ run choice now, m ≠ .go run choice now) :
    (k.move m).signals = k.signals := by
  have step := moved k m
  generalize k.move m = k' at *
  cases step with
  | ignored | begun | stopped | handedOver => rfl
  | waits | turns => exact absurd rfl (still _ _ _)
  | aside aside => exact aside.signals

/-- A socket that its run has let go of is never held again. -/
theorem Owns.unheld (owns : Owns k run socket) (unheld : ¬ k.Holds run socket)
    (deals : Deals k k') : ¬ k'.Holds run socket := by
  intro held
  cases deals with
  | none holds | prepares holds => exact unheld (holds run socket held)
  | hands run' socket' holds prepared =>
    rcases holds run socket held with before | ⟨_, rfl⟩
    · exact unheld before
    · apply owns.gone
      rw [prepared]
      exact List.mem_cons_self

/-- A run that is the current one after some moves was so from its beginning. -/
theorem isCurrent_of_after {moves : List Move} (begun : run < k.link.run)
    (current : (k.after moves).isCurrent run = true) : k.isCurrent run = true := by
  cases before : k.isCurrent run with
  | true => rfl
  | false =>
    have retired : Retired k run := ⟨begun, before⟩
    rw [(retired.after moves).outdated] at current
    cases current

/-! ## What a run reports of its socket -/

/-- What some events, with the times for loop events without one, have to be reported as. -/
def reported (taken : List (String × SocketEvent)) : List Signal :=
  taken.flatMap fun (now, e) => e.callbacks now

theorem reported_concat (taken : List (String × SocketEvent)) (now : String) (e : SocketEvent) :
    reported (taken ++ [(now, e)]) = reported taken ++ e.callbacks now := by
  simp [reported]

/-- A run reads from its socket: what it has taken, of which none was a close, and what is unread is
all that has arrived, and it has reported what it has taken. -/
structure Listens (k : Keeper) (run socket : Nat) (base : List Signal) (arrived : List SocketEvent)
    (taken : List (String × SocketEvent)) : Prop where
  phase : k.phase? run = some (.reading socket)
  unread : ∃ s, k.sockets[socket]? = some s ∧ s.isOpen = true ∧
    arrived = taken.map Prod.snd ++ s.queue
  ongoing : ∀ e ∈ taken.map Prod.snd, e.isClosed = false
  told : k.signals = base ++ reported taken

/-- What a run reports next once its socket has closed: that there will be a retry, and whatever
comes of it. -/
def Retries (rest : List Signal) : Prop :=
  ∃ delay attempt more, rest = .log .info (retryMessage delay attempt) :: more

/-- A run has done with its socket: it has taken all that has arrived through the first close, and
it has reported that, and then gone on to a retry, if it could. -/
structure Finished (k : Keeper) (run socket : Nat) (base : List Signal)
    (arrived : List SocketEvent) (taken : List (String × SocketEvent)) : Prop where
  unheld : ¬ k.Holds run socket
  through : taken.map Prod.snd = SocketEvent.throughClosed (arrived ++ k.ending socket)
  closed : ∃ e ∈ taken.map Prod.snd, e.isClosed = true
  told : ∃ rest, k.signals = base ++ reported taken ++ rest ∧
    ((rest = [] ∧ k.phase? run = some .ended) ∨ Retries rest)

/-- A run reads from its socket, or has done with it. -/
def Attends (k : Keeper) (run socket : Nat) (base : List Signal) (arrived : List SocketEvent)
    (taken : List (String × SocketEvent)) : Prop :=
  Listens k run socket base arrived taken ∨ Finished k run socket base arrived taken

/-- While a run reads from its socket, a step of another run closes it. -/
def CutOff (k : Keeper) (run socket : Nat) (moves : List Move) : Prop :=
  ∃ before other choice now later, moves = before ++ .go other choice now :: later ∧
    other ≠ run ∧ (k.after before).phase? run = some (.reading socket) ∧
    (k.after before).isOpenAt socket = true ∧
    ((k.after before).move (.go other choice now)).isOpenAt socket = false

section
variable {base : List Signal} {arrived : List SocketEvent} {taken : List (String × SocketEvent)}

/-- What a run reads is what comes next of all that has arrived. -/
theorem Listens.read {e : SocketEvent} {k₁ : Keeper}
    (listens : Listens k run socket base arrived taken)
    (read : k.readNext? socket = some (e, k₁)) :
    (∃ s', k₁.sockets[socket]? = some s' ∧ s'.isOpen = true ∧
        arrived = taken.map Prod.snd ++ e :: s'.queue) ∨
      (k.hasHungUp socket = true ∧ e = .closed none ∧ arrived = taken.map Prod.snd) := by
  obtain ⟨s, found, isOpen, arrived_eq⟩ := listens.unread
  obtain ⟨_, s', found', next, rfl⟩ := readNext?_eq read
  cases found.symm.trans found'
  rcases next?_of_isOpen isOpen next with queue | ⟨empty, _, hungUp, isClose⟩
  · refine Or.inl ⟨s', ?_, (Socket.isOpen_next next).trans isOpen, queue ▸ arrived_eq⟩
    rw [getElem?_modifySocket, found, Option.map_some, if_pos rfl]
  · refine Or.inr ⟨?_, isClose, ?_⟩
    · rw [hasHungUp, found, Option.any_some, hungUp]
    · rw [arrived_eq, empty, List.append_nil]

/-- A run that has read anything but a close goes on to listen. -/
theorem Listens.continues {e : SocketEvent} {k₁ : Keeper}
    (listens : Listens k run socket base arrived taken)
    (read : k.readNext? socket = some (e, k₁)) (unclosed : e.isClosed = false)
    (phase : k'.phase? run = k₁.phase? run) (sockets : k'.sockets = k₁.sockets)
    (signals : k'.signals = k₁.signals ++ e.callbacks now) :
    Listens k' run socket base arrived (taken ++ [(now, e)]) := by
  refine ⟨?_, ?_, ?_, ?_⟩
  · rw [phase, phase?_readNext? read, listens.phase]
  · rcases listens.read read with ⟨s', found, isOpen, arrived_eq⟩ | ⟨_, rfl, _⟩
    · refine ⟨s', by rw [sockets, found], isOpen, ?_⟩
      rw [arrived_eq, List.map_append, List.append_assoc]
      rfl
    · cases unclosed
  · intro e' mem
    rw [List.map_append, List.mem_append] at mem
    rcases mem with mem | mem
    · exact listens.ongoing e' mem
    · rw [List.mem_singleton.1 mem]
      exact unclosed
  · rw [signals, (silent_readNext? read).signals, listens.told, reported_concat, List.append_assoc]

/-- A run that has read a close has read all through the first one. -/
theorem Listens.through {reason : Option String} {k₁ : Keeper}
    (listens : Listens k run socket base arrived taken)
    (read : k.readNext? socket = some (.closed reason, k₁)) :
    taken.map Prod.snd ++ [.closed reason]
      = SocketEvent.throughClosed (arrived ++ k.ending socket) := by
  rcases listens.read read with ⟨s', _, _, arrived_eq⟩ | ⟨hungUp, isClose, arrived_eq⟩
  · rw [arrived_eq, List.append_assoc]
    exact (SocketEvent.throughClosed_append_closed listens.ongoing rfl).symm
  · rw [arrived_eq, ending, if_pos hungUp, isClose]
    exact (SocketEvent.throughClosed_append_closed listens.ongoing rfl).symm

theorem Retry.signals_or_ended (retry : Retry k run k') (heeded : k.logFails = none) {p : Phase}
    (phase : k.phase? run = some p) :
    ∃ rest, k'.signals = k.signals ++ rest ∧
      ((rest = [] ∧ k'.phase? run = some .ended) ∨ Retries rest) := by
  rcases retry.cases_of_heeded heeded with ⟨share, delay, _, rfl⟩ | ⟨share, _, rfl⟩
  · exact ⟨_, rfl, Or.inr ⟨delay, _, [], rfl⟩⟩
  · exact ⟨[], (List.append_nil _).symm, Or.inl ⟨rfl, phase?_setPhase (p := p) phase _⟩⟩

theorem Retry.unheld (retry : Retry k run k') (heeded : k.logFails = none) (source : Nat) :
    ¬ k'.Holds run source := by
  have free {k₁ : Keeper} {p : Phase} (none : p.socket? = none) :
      ¬ (k₁.setPhase run p).Holds run source := by
    rintro ⟨r, found, holds⟩
    rw [setPhase, List.getElem?_modify, Option.map_eq_map, Option.map_eq_some_iff] at found
    obtain ⟨_, _, rfl⟩ := found
    rw [if_pos rfl, none] at holds
    cases holds
  rcases retry.cases_of_heeded heeded with ⟨share, delay, _, rfl⟩ | ⟨share, _, rfl⟩
  · exact free rfl
  · exact free rfl

/-- A turn of a run that listens: it takes the next event, and has done with its socket if that is
a close. -/
theorem Listens.goes {deed : Option Deed} (listens : Listens k run socket base arrived taken)
    (intact : Intact k) (goes : Goes k now run deed k') :
    Attends k' run socket base arrived
      (taken ++ History.takenFrom (deed.map (⟨run, k.clock, now, ·⟩)).toList socket) := by
  have phase_eq {p : Phase} (phase : k.phase? run = some p) : p = .reading socket :=
    Option.some.inj (phase.symm.trans listens.phase)
  have event (e : SocketEvent) : History.takenFrom
      ((some (Deed.taking socket e)).map (⟨run, k.clock, now, ·⟩)).toList socket = [(now, e)] := by
    simp [History.takenFrom, Record.takenFrom?]
  cases goes with
  | resumed phase | dialled phase | rejected phase | refused phase | registered phase
  | woken phase => cases phase_eq phase
  | @heard source text k₁ phase read =>
    cases phase_eq phase
    rw [event]
    refine Or.inl (listens.continues read rfl rfl rfl ?_)
    show k₁.signals ++ (Frame.read now text).signals = _
    rw [Frame.signals_read]
    rfl
  | erred phase read =>
    cases phase_eq phase
    rw [event]
    exact Or.inl (listens.continues read rfl rfl rfl rfl)
  | @closed source reason k₁ _ phase read retry =>
    cases phase_eq phase
    have heeded : (k₁.release.down .warn (closedMessage reason)).logFails = none :=
      heeded_down ((intact.readNext? read).release).heeded
    have before : k₁.release.phase? run = some (.reading socket) :=
      (phase?_release k₁ run).trans ((phase?_readNext? read run).trans phase)
    obtain ⟨rest, signals, resumes⟩ := retry.signals_or_ended heeded (p := .reading socket) before
    have goes : Goes k now run _ k' := .closed phase read retry
    rw [event]
    refine Or.inr ⟨retry.unheld heeded socket, ?_, ⟨.closed reason, by simp, rfl⟩, rest, ?_,
      resumes⟩
    · rw [List.map_append, ending, goes.hasHungUp_eq]
      exact listens.through read
    · have quiet := ((silent_readNext? read).trans (silent_release k₁)).signals
      show k'.signals = _
      rw [signals, reported_concat]
      show k₁.release.signals ++ _ ++ rest = _
      rw [quiet, listens.told]
      simp only [List.append_assoc]
      rfl

/-- Who has done with a socket has done with it, whatever still arrives there. -/
theorem Finished.later {more : List SocketEvent}
    (finished : Finished k run socket base arrived taken) (unheld : ¬ k'.Holds run socket)
    (hungUp : k.hasHungUp socket = true → more = [] ∧ k'.hasHungUp socket = true)
    (signals : ∃ said, k'.signals = k.signals ++ said)
    (rests : k.phase? run = some .ended →
      k'.signals = k.signals ∧ k'.phase? run = some .ended) :
    Finished k' run socket base (arrived ++ more) taken := by
  obtain ⟨rest, told, resumes⟩ := finished.told
  refine ⟨unheld, ?_, finished.closed, ?_⟩
  · rw [finished.through]
    cases before : k.hasHungUp socket with
    | true =>
      obtain ⟨nothing, after⟩ := hungUp before
      rw [nothing, List.append_nil, ending, ending, before, after]
    | false =>
      -- The close that was taken is one that had arrived.
      have through := finished.through
      have still : k.ending socket = [] := by simp [ending, before]
      rw [still, List.append_nil] at through ⊢
      obtain ⟨e, mem, closed⟩ := finished.closed
      rw [through] at mem
      have arrived_closed : ∃ e ∈ arrived, e.isClosed = true :=
        ⟨e, SocketEvent.mem_of_mem_throughClosed mem, closed⟩
      rw [List.append_assoc, SocketEvent.throughClosed_append_of_closed arrived_closed]
  · rcases resumes with ⟨nothing, ended⟩ | ⟨delay, attempt, more, same⟩
    · obtain ⟨quiet, still⟩ := rests ended
      exact ⟨rest, quiet.trans told, Or.inl ⟨nothing, still⟩⟩
    · obtain ⟨said, signals⟩ := signals
      refine ⟨rest ++ said, ?_, Or.inr ⟨delay, attempt, more ++ said, by rw [same]; rfl⟩⟩
      rw [signals, told, List.append_assoc]

/-- A run takes events from no socket that it does not hold. -/
theorem Goes.takenFrom_eq_nil {deed : Option Deed} (goes : Goes k now run deed k')
    (unheld : ¬ k.Holds run socket) (clock : Nat) :
    History.takenFrom (deed.map (⟨run, clock, now, ·⟩)).toList socket = [] := by
  have other {source : Nat} (phase : k.phase? run = some (.reading source)) : source ≠ socket := by
    rintro rfl
    obtain ⟨r, found, reads⟩ := Option.map_eq_some_iff.1 phase
    exact unheld ⟨r, found, by rw [reads]; rfl⟩
  cases goes with
  | resumed | dialled | rejected | refused | registered | woken => rfl
  | heard phase | erred phase | closed phase =>
    simp [History.takenFrom, Record.takenFrom?, other phase]

theorem Finished.goes {deed : Option Deed} (finished : Finished k run socket base arrived taken)
    (intact : Intact k) (owns : Owns k run socket) (h : k.runs[run]? = some r)
    (turn : Turn k now run r k') (goes : Goes k now run deed k') :
    Finished k' run socket base arrived
      (taken ++ History.takenFrom (deed.map (⟨run, k.clock, now, ·⟩)).toList socket) := by
  rw [goes.takenFrom_eq_nil finished.unheld, List.append_nil, ← List.append_nil arrived]
  obtain ⟨p, shift⟩ := turn.shift h
  refine finished.later (owns.unheld finished.unheld (shift.deals h)) ?_ ?_ ?_
  · exact fun hungUp => ⟨rfl, (goes.hasHungUp_eq socket).trans hungUp⟩
  · obtain ⟨said, signals, _⟩ := turn.tells intact
    exact ⟨said, signals⟩
  · intro ended
    rw [phase?_of_run h] at ended
    exact absurd (Option.some.inj ended) turn.phase_ne_ended

/-- A turn of a run that is over: it leaves alone who attends to a socket, or closes that. -/
theorem Attends.other {other : Nat} (attends : Attends k run socket base arrived taken)
    (owns : Owns k run socket) (current : k.isCurrent run = true)
    (outdated : k.isCurrent other = false) (h : k.runs[other]? = some r)
    (turn : Turn k now other r k') :
    Attends k' run socket base arrived taken ∨
      (k.phase? run = some (.reading socket) ∧ k.isOpenAt socket = true ∧
        k'.isOpenAt socket = false) := by
  obtain ⟨p, shift⟩ := turn.shift h
  have ne : run ≠ other := by
    rintro rfl
    rw [outdated] at current
    cases current
  have phase : k'.phase? run = k.phase? run := by rw [shift.phase?_eq h, if_neg ne]
  have quiet := (turn.silent outdated).signals
  have free : r.phase.socket? ≠ some socket := fun holds =>
    ne (owns.alone other ⟨r, h, holds⟩).symm
  have changed := turn.socket_of_other outdated free
  rcases attends with listens | finished
  · obtain ⟨s, found, isOpen, arrived_eq⟩ := listens.unread
    rcases changed with same | closed
    · refine Or.inl (Or.inl ⟨phase.trans listens.phase, ⟨s, same.trans found, isOpen, arrived_eq⟩,
        listens.ongoing, quiet.trans listens.told⟩)
    · refine Or.inr ⟨listens.phase, ?_, ?_⟩
      · rw [isOpenAt, found, Option.any_some, isOpen]
      · rw [isOpenAt, closed, found]
        simp [Socket.isOpen]
  · have hungUp : k'.hasHungUp socket = k.hasHungUp socket := by
      rw [hasHungUp, hasHungUp]
      rcases changed with same | closed
      · rw [same]
      · rw [closed]
        cases k.sockets[socket]? <;> rfl
    refine Or.inl (Or.inr ?_)
    rw [← List.append_nil arrived]
    refine finished.later (owns.unheld finished.unheld (shift.deals h)) ?_ ?_ ?_
    · exact fun before => ⟨rfl, hungUp.trans before⟩
    · exact ⟨[], quiet.trans (List.append_nil _).symm⟩
    · exact fun ended => ⟨quiet, phase.trans ended⟩

/-- What callers, peers and time do: what they bring to a socket is unread there. -/
theorem Attends.still {m : Move} (attends : Attends k run socket base arrived taken)
    (owns : Owns k run socket) (still : ∀ run choice now, m ≠ .go run choice now)
    (unstopped : m ≠ .stop) (phase : (k.move m).phase? run = k.phase? run) :
    Attends (k.move m) run socket base (arrived ++ k.arrives socket m) taken := by
  have quiet := signals_of_still (k := k) still
  rcases attends with listens | finished
  · obtain ⟨s, found, isOpen, arrived_eq⟩ := listens.unread
    obtain ⟨s', found', grows⟩ := grows_move found still unstopped
    refine Or.inl ⟨phase.trans listens.phase, ⟨s', found', ?_, ?_⟩, listens.ongoing,
      quiet.trans listens.told⟩
    · rw [Socket.isOpen, grows.opened, grows.closed]
      exact isOpen
    · rw [grows.queue, arrived_eq, List.append_assoc]
  · refine Or.inr (finished.later ?_ ?_ ?_ ?_)
    · exact owns.unheld finished.unheld (moved k m).deals
    · -- Nothing arrives after the end that a hang-up makes.
      intro before
      obtain ⟨s, found, hungUp⟩ := exists_of_hasHungUp before
      obtain ⟨s', found', grows⟩ := grows_move found still unstopped
      refine ⟨arrives_of_hungUp found hungUp m, ?_⟩
      rw [hasHungUp, found', Option.any_some, grows.hungUp hungUp]
    · exact ⟨[], quiet.trans (List.append_nil _).symm⟩
    · exact fun ended => ⟨quiet, phase.trans ended⟩

/-! ## Whole lives of sockets -/

theorem CutOff.head {m : Move} {moves : List Move} (cutOff : k.CutOff run socket [m]) :
    k.CutOff run socket (m :: moves) := by
  obtain ⟨before, other, choice, now, later, split, rest⟩ := cutOff
  refine ⟨before, other, choice, now, later ++ moves, ?_, rest⟩
  rw [← List.singleton_append, split]
  simp

theorem CutOff.tail {m : Move} {moves : List Move} (cutOff : (k.move m).CutOff run socket moves) :
    k.CutOff run socket (m :: moves) := by
  obtain ⟨before, other, choice, now, later, split, rest⟩ := cutOff
  exact ⟨m :: before, other, choice, now, later, by rw [split]; rfl, rest⟩

/-- **A run attends to its socket through every move**, unless another run closes that. -/
theorem Attends.move {m : Move} (attends : Attends k run socket base arrived taken)
    (sound : Sound k) (owns : Owns k run socket) (before : k.isCurrent run = true)
    (current : (k.move m).isCurrent run = true) :
    Attends (k.move m) run socket base (arrived ++ k.arrives socket m)
        (taken ++ History.takenFrom (k.record? m).toList socket) ∨
      k.CutOff run socket [m] := by
  rcases m.go_or_still with ⟨other, choice, now, rfl⟩ | still
  · rw [show k.arrives socket (.go other choice now) = [] from rfl, List.append_nil]
    have step := sound.step other choice now
    generalize next : k.move (.go other choice now) = k' at *
    cases step with
    | waits untold same =>
      rw [untold, same, Option.toList_none, History.takenFrom_nil, List.append_nil]
      exact Or.inl attends
    | goes own told h turn goes =>
      cases eq_of_isCurrent before own
      rw [told]
      rcases attends with listens | finished
      · exact Or.inl (listens.goes sound.intact goes)
      · exact Or.inl (Or.inr (finished.goes sound.intact owns h turn goes))
    | other outdated untold h turn =>
      -- It cannot read from a socket that is not its own, but it may close it.
      rw [untold, Option.toList_none, History.takenFrom_nil, List.append_nil]
      refine (attends.other owns before outdated h turn).imp id ?_
      rintro ⟨reads, isOpen, closed⟩
      refine ⟨[], other, choice, now, [], rfl, ?_, reads, isOpen, next ▸ closed⟩
      rintro rfl
      rw [outdated] at before
      cases before
  · have unstopped : m ≠ .stop := by
      rintro rfl
      rw [move_stop, stop_eq] at current
      have outdated : k.stopped.isCurrent run = false :=
        isCurrent_of_unwanted (wanted_stop k.link) run
      rw [outdated] at current
      cases current
    rw [record?_of_still still, Option.toList_none, History.takenFrom_nil, List.append_nil]
    refine Or.inl (attends.still owns still unstopped ?_)
    cases sound.happens m current with
    | begins unwanted =>
      rw [isCurrent_of_unwanted unwanted] at before
      cases before
    | goes isGo => exact absurd isGo (still _ _ _)
    | rests _ _ _ phase => exact phase

theorem Attends.after {moves : List Move} (attends : Attends k run socket base arrived taken)
    (sound : Sound k) (owns : Owns k run socket) (whole : ∀ m ∈ moves, m.breaks = false)
    (begun : run < k.link.run) (current : (k.after moves).isCurrent run = true) :
    Attends (k.after moves) run socket base (arrived ++ k.arrivals socket moves)
        (taken ++ History.takenFrom (k.records moves) socket) ∨
      k.CutOff run socket moves := by
  induction moves generalizing k arrived taken with
  | nil =>
    left
    simpa [arrivals, records] using attends
  | cons m moves ih =>
    -- The run is the current one throughout, since it is so in the end.
    have begun' : run < (k.move m).link.run := Nat.lt_of_lt_of_le begun (moved k m).number_le
    have before := isCurrent_of_after begun current
    have next : (k.move m).isCurrent run = true := isCurrent_of_after begun' current
    rcases attends.move sound owns before next with attends' | cutOff
    · have later := ih attends' (sound.move (whole m List.mem_cons_self))
        (owns.deals (moved k m).deals) (fun m' mem => whole m' (List.mem_cons_of_mem m mem)) begun'
        current
      rcases later with attends'' | cutOff
      · left
        simpa [arrivals, records] using attends''
      · exact Or.inr cutOff.tail
    · exact Or.inr cutOff.head

/-- While a connection is wanted, what has ended stays so. -/
theorem hasEnded_move {m : Move} {other : Nat} (wanted : k.link.wanted = true)
    (ended : k.hasEnded other = true) : (k.move m).hasEnded other = true := by
  have step := moved k m
  generalize k.move m = k' at *
  cases step with
  | ignored | waits | handedOver => exact ended
  | begun unwanted =>
    rw [wanted] at unwanted
    cases unwanted
  | stopped =>
    rw [← ended]
    exact hasEnded_of_phase? (phase_cancelLast k other)
  | turns h turn => exact turn.hasEnded h ended
  | aside aside =>
    rw [← ended]
    exact hasEnded_of_phase? (by rw [phase?, phase?, aside.runs])

theorem hasEnded_after {moves : List Move} {other : Nat} (begun : run < k.link.run)
    (current : (k.after moves).isCurrent run = true) (ended : k.hasEnded other = true) :
    (k.after moves).hasEnded other = true := by
  induction moves generalizing k with
  | nil => exact ended
  | cons m moves ih =>
    have wanted := wanted_of_isCurrent (isCurrent_of_after begun current)
    have begun' : run < (k.move m).link.run := Nat.lt_of_lt_of_le begun (moved k m).number_le
    exact ih begun' current (hasEnded_move wanted ended)

/-- A run that is alone keeps its socket to itself. -/
theorem not_cutOff {moves : List Move} (begun : run < k.link.run)
    (current : (k.after moves).isCurrent run = true)
    (alone : ∀ other, other ≠ run → k.hasEnded other = true) : ¬ k.CutOff run socket moves := by
  rintro ⟨before, other, choice, now, later, rfl, ne, _, isOpen, closed⟩
  rw [after_append] at current
  have still : (k.after before).isCurrent run = true :=
    isCurrent_of_after (Nat.lt_of_lt_of_le begun (number_le_after k before)) current
  have ended := hasEnded_after begun still (alone other ne)
  rcases move_go (k.after before) other choice now with same | ⟨r, h, turn⟩
  · rw [same, isOpen] at closed
    cases closed
  · rcases hasEnded_iff.1 ended with none | phase
    · rw [phase?_of_run h] at none
      cases none
    · rw [phase?_of_run h] at phase
      exact turn.phase_ne_ended (Option.some.inj phase)

/-- Where calls are made in order, a run that has been handed a socket is alone. -/
theorem Orderly.alone {c : Caller} (orderly : Orderly k c) (current : k.isCurrent run = true)
    {dial : Option Dial} (phase : k.phase? run = some (.connecting dial)) {other : Nat}
    (ne : other ≠ run) : k.hasEnded other = true := by
  obtain ⟨single, _⟩ := orderly.single_keeps
  -- All runs before it have ended, since it waits for none; and it is the last one.
  rcases Nat.lt_or_gt_of_ne ne with before | later
  · exact single.chained.past run _ phase rfl other before
  · have numbered := single.numbered
    simp only [isCurrent, Link.isCurrent, Bool.and_eq_true, beq_iff_eq] at current
    exact hasEnded_of_length_le (by omega)

/-- A start that comes while a shutdown waits: the run that was stopped takes the closer of the next
one for its own. -/
example :
    let go (run : Nat) : Move := .go run .plain ""
    let k := (new .standard "http://a").after
      [.act (.accept false false) rfl, .act (.accept false false) rfl, .start, go 0, go 0, .stop,
        .handOver, .start, go 1, go 1]
    k.isCurrent 1 = true ∧ k.phase? 1 = some (.reading 1) ∧ k.isOpenAt 1 = true ∧
      (k.move (go 0)).isOpenAt 1 = false := by
  decide +kernel

end

/-- What a socket has led to: all that there was to be taken, through the first close, was taken and
reported, and then at most what comes of a retry. -/
structure Served (k : Keeper) (base : List Signal) (queued : List SocketEvent)
    (taken : List (String × SocketEvent)) : Prop where
  through : taken.map Prod.snd = SocketEvent.throughClosed queued
  told : ∃ rest, k.signals = base ++ reported taken ++ rest ∧
    (rest = [] ∨ ((∃ e ∈ queued, e.isClosed = true) ∧ Retries rest))

/-- A run that listens and has to wait has left nothing. -/
theorem Attends.served {base : List Signal} {arrived : List SocketEvent}
    {taken : List (String × SocketEvent)} (attends : Attends k run socket base arrived taken)
    (sound : Sound k) (current : k.isCurrent run = true) (waits : k.Waits) :
    Served k base (arrived ++ k.ending socket) taken := by
  rcases attends with listens | finished
  · obtain ⟨r, h⟩ := sound.exists_run current
    obtain ⟨s, found, _, arrived_eq⟩ := listens.unread
    have held := waits_iff.1 waits r (List.mem_of_getElem? h)
    have reads : r.phase = .reading socket :=
      Option.some.inj ((phase?_of_run h).symm.trans listens.phase)
    -- It has to wait, and not because it was stopped: there is nothing to be read.
    have nothing : s.next? = none := by
      simp only [isHeld, reads, sound.attached run r current h, Bool.not_false, Bool.true_and,
        readNext?, found] at held
      cases next : s.next? with
      | none => rfl
      | some =>
        rw [next] at held
        cases held
    obtain ⟨empty, going⟩ := next?_eq_none nothing
    have still : k.ending socket = [] := by simp [ending, hasHungUp, found, going]
    refine ⟨?_, [], by rw [listens.told, List.append_nil], Or.inl rfl⟩
    rw [still, List.append_nil, arrived_eq, empty, List.append_nil]
    exact (SocketEvent.throughClosed_of_open listens.ongoing).symm
  · obtain ⟨rest, told, resumes⟩ := finished.told
    refine ⟨finished.through, rest, told, resumes.imp And.left fun retries => ⟨?_, retries⟩⟩
    obtain ⟨e, mem, closed⟩ := finished.closed
    rw [finished.through] at mem
    exact ⟨e, SocketEvent.mem_of_mem_throughClosed mem, closed⟩

/-- What is reported of a socket first. -/
def greeting : List Signal := [.connected true, .log .info "Connected to status channel"]

/-- A run that has registered a socket listens to it from the first of its events on. -/
theorem Pristine.listens {sent : Nat → List SocketEvent} (pristine : Pristine k sent)
    (goes : Goes k now run (some (.opening socket)) k') :
    Listens k' run socket (k.signals ++ greeting) (sent socket) [] := by
  cases goes with
  | @registered _ s phase found =>
    have unopened : s.opened = false := by
      have unopened := pristine.dialled run socket phase
      rwa [hasOpened, found, Option.any_some] at unopened
    obtain ⟨unclosed, queue⟩ := pristine.unread socket s found unopened
    refine ⟨phase?_setPhase (p := .connecting _) phase _,
      ⟨{ s with opened := true }, ?_, ?_, queue.symm⟩,
      fun _ mem => absurd mem List.not_mem_nil, ?_⟩
    · show (k.modifySocket socket fun s => { s with opened := true }).sockets[socket]? = _
      rw [getElem?_modifySocket, found, Option.map_some, if_pos rfl]
    · simp [Socket.isOpen, unclosed]
    · show k.signals ++ greeting = _
      exact (List.append_nil _).symm

/-- Only a run that there is does anything. -/
theorem Sound.lt_of_deed (sound : Sound k) {deed : Deed} (told : k.deed? run = some deed) :
    run < k.link.run := by
  rw [sound.reachable.numbered, ← Nat.not_le, ← phase?_eq_none_iff]
  intro none
  rw [deed?, none] at told
  cases told

/-- The current run does in its turn what it is to do next. -/
theorem Sound.goes_of_deed (sound : Sound k) (current : k.isCurrent run = true) {deed : Deed}
    (told : k.deed? run = some deed) (choice : Choice) (now : String) :
    Goes k now run (some deed) (k.move (.go run choice now)) := by
  cases sound.step run choice now with
  | waits untold => simp [record?, current, told] at untold
  | goes _ _ _ _ goes => exact (goes.deed?_eq.symm.trans told) ▸ goes
  | other outdated =>
    rw [current] at outdated
    cases outdated

theorem phase?_of_opening (told : k.deed? run = some (.opening socket)) :
    k.phase? run = some (.connecting (some (.accepted socket))) := by
  unfold deed? at told
  split at told
  · split at told <;> cases told
  · cases told
  · next phase =>
    split at told
    · cases told
      exact phase
    · cases told
  · obtain ⟨_, _, same⟩ := Option.map_eq_some_iff.1 told
    cases same
  · cases told

/-- A run that registers a socket has, while all wait, done all that is to be done about it, unless
another run has closed it; and there is no other run where calls are made in order. -/
theorem Sound.served {sent : Nat → List SocketEvent} (sound : Sound k) (pristine : Pristine k sent)
    (opening : k.deed? run = some (.opening socket)) {choice : Choice} {opened : Keeper}
    (opens : k.move (.go run choice now) = opened) {later : List Move}
    (whole : ∀ m ∈ later, m.breaks = false) (current : (opened.after later).isCurrent run = true)
    (waits : (opened.after later).Waits) :
    (Served (opened.after later) (k.signals ++ greeting)
          (sent socket ++ opened.arrivals socket later ++ (opened.after later).ending socket)
          ((opened.records later).takenFrom socket) ∨
        opened.CutOff run socket later) ∧
      ∀ c, Orderly k c → ¬ opened.CutOff run socket later := by
  subst opens
  have begun := sound.lt_of_deed opening
  have begun' := Nat.lt_of_lt_of_le begun (moved k (.go run choice now)).number_le
  have before : k.isCurrent run = true := by
    rw [← isCurrent_go k run choice now]
    exact isCurrent_of_after begun' current
  have phase := phase?_of_opening opening
  constructor
  · obtain ⟨r, h, connecting⟩ := Option.map_eq_some_iff.1 phase
    have owned := sound.reachable.dealt.owned run socket ⟨r, h, by rw [connecting]; rfl⟩
    have owns := owned.deals (moved k (.go run choice now)).deals
    have listens := pristine.listens (sound.goes_of_deed before opening choice now)
    have opens : Sound (k.move (.go run choice now)) := sound.move rfl
    have attends := Attends.after (.inl listens) opens owns whole begun' current
    refine attends.imp (fun attends => ?_) id
    have served := attends.served (opens.after whole) current waits
    exact served
  · intro c orderly
    refine not_cutOff begun' current fun other ne => ?_
    exact hasEnded_move (wanted_of_isCurrent before) (orderly.alone before phase ne)

/-- **Every event of a socket is reported, in order and once.**  Nothing is made to fail.  Then the
codes that are counted as unknown are those of all frames that were taken, by whatever run.  And if
a run has registered a socket and is still the current one when all wait, it has reported all that
its peer has sent, through the first close, after the greeting and before all else; unless another
run has closed the socket meanwhile, which no run does where calls are made in order. -/
theorem callbacks_of_waits (policy : Policy) (baseUrl : String) {moves : List Move}
    (whole : ∀ m ∈ moves, m.breaks = false) :
    ((new policy baseUrl).after moves).unknownCodes
        = (History.unknown ((new policy baseUrl).records moves)).length ∧
      ∀ early run choice now later socket, moves = early ++ .go run choice now :: later →
        ((new policy baseUrl).after early).deed? run = some (.opening socket) →
        ((new policy baseUrl).after moves).isCurrent run = true →
        ((new policy baseUrl).after moves).Waits →
        let before := (new policy baseUrl).after early
        let opened := before.move (.go run choice now)
        (Served ((new policy baseUrl).after moves) (before.signals ++ greeting)
              ((new policy baseUrl).queued socket moves)
              ((opened.records later).takenFrom socket) ∨
            opened.CutOff run socket later) ∧
          ∀ c, Orderly before c → ¬ opened.CutOff run socket later := by
  constructor
  · rw [(sound_new policy baseUrl).unknownCodes_after whole]
    exact Nat.zero_add _
  intro early run choice now later socket split opening current waits before opened
  subst split
  have wholeEarly : ∀ m ∈ early, m.breaks = false := fun m mem =>
    whole m (List.mem_append_left _ mem)
  have wholeLater : ∀ m ∈ later, m.breaks = false := fun m mem =>
    whole m (List.mem_append_right _ (List.mem_cons_of_mem _ mem))
  rw [after_append, after_cons] at current waits ⊢
  rw [queued, arrivals_append, after_append, after_cons]
  have sound := sound_after policy baseUrl wholeEarly
  exact sound.served (pristine_after policy baseUrl wholeEarly) opening rfl wholeLater current waits

/-- A frame with a code that is not known, a plain text and an error are sent to a socket, and then
its peer hangs up. -/
theorem callbacks_of_waits_hungUp :
    let go : Move := .go 0 .plain ""
    let early : List Move := [.act (.accept false false) rfl, .start, go]
    let frame := "\x7b\"status\":\"transcribing\",\"current_node\":\"resting\"\x7d"
    let later : List Move :=
      [.act (.send 0 (.text frame)) rfl, .act (.send 0 (.text "hello")) rfl,
        .act (.send 0 (.error "reset")) rfl, .act (.hangUp 0) rfl, go, go, go, go]
    let before := (new .standard "http://a").after early
    let k := (new .standard "http://a").after (early ++ go :: later)
    let queued : List SocketEvent := [.text frame, .text "hello", .error "reset", .closed none]
    k.unknownCodes = 1 ∧ k.isCurrent 0 = true ∧ k.Waits ∧
      Served k (before.signals ++ greeting) queued (queued.map ("", ·)) := by
  intro go early frame later before k queued
  have whole : ∀ m ∈ early ++ go :: later, m.breaks = false := by decide
  have current : k.isCurrent 0 = true := by decide +kernel
  have waits : k.Waits := by decide +kernel
  have opening : before.deed? 0 = some (.opening 0) := by decide +kernel
  have all : (new .standard "http://a").queued 0 (early ++ go :: later) = queued := by
    decide +kernel
  have taken : ((before.move go).records later).takenFrom 0 = queued.map ("", ·) := by
    decide +kernel
  have prepared :
      Orderly ((new .standard "http://a").move (.act (.accept false false) rfl)) .free :=
    .other _ (.new .standard "http://a") rfl rfl
  have orderly : Orderly before .free := .other go prepared.start rfl rfl
  obtain ⟨count, sockets⟩ := callbacks_of_waits .standard "http://a" whole
  obtain ⟨served | cutOff, alone⟩ :=
    sockets early 0 .plain "" later 0 rfl opening current waits
  · rw [all, taken] at served
    refine ⟨?_, current, waits, served⟩
    rw [show k.unknownCodes = _ from count]
    decide +kernel
  · exact absurd cutOff (alone .free orderly)

/-- A run that was stopped closes the socket of the next one: that has registered while a shutdown
waits, and what its peer has sent is never taken. -/
theorem not_forall_served :
    ¬ ∀ (early later : List Move) (run : Nat) (choice : Choice) (now : String) (socket : Nat),
      let moves := early ++ .go run choice now :: later
      let before := (new .standard "http://a").after early
      let k := (new .standard "http://a").after moves
      (∀ m ∈ moves, m.breaks = false) → before.deed? run = some (.opening socket) →
        k.isCurrent run = true → k.Waits →
        ∃ taken, Served k (before.signals ++ greeting)
          ((new .standard "http://a").queued socket moves) taken := by
  intro always
  let go (run : Nat) : Move := .go run .plain ""
  let early : List Move := [.act (.accept false false) rfl, .act (.accept false false) rfl, .start,
    go 0, go 0, .stop, .handOver, .start, go 1]
  let later : List Move := [.act (.send 1 (.text "hello")) rfl, go 0, go 0, go 1]
  let moves := early ++ go 1 :: later
  have whole : ∀ m ∈ moves, m.breaks = false := by decide
  have queued : (new .standard "http://a").queued 1 moves = [.text "hello"] := by decide +kernel
  have signals : ((new .standard "http://a").after moves).signals =
      ((new .standard "http://a").after early).signals ++ greeting ++
        [.connected false, .log .warn "Disconnected",
          .log .info "Reconnecting in 1000ms (attempt 1)"] := by
    decide +kernel
  obtain ⟨taken, through, rest, told, _⟩ := always early later 1 .plain "" 1 whole
    (by decide +kernel) (by decide +kernel) (by decide +kernel)
  rw [show early ++ Move.go 1 .plain "" :: later = moves from rfl] at through told
  rw [queued] at through
  obtain ⟨⟨t, e⟩, rfl, rfl⟩ := List.map_eq_singleton_iff.1 through
  have plain : Json.parse? "hello" = none := by decide +kernel
  have frame : Frame.read t "hello" = .raw "hello" := by
    rw [Frame.read, plain]
  have reports : reported [(t, SocketEvent.text "hello")] = [.log .info "hello"] := by
    simp [reported, SocketEvent.callbacks, frame, Frame.callbacks]
  rw [reports, signals, List.append_assoc _ [_] rest] at told
  cases List.append_cancel_left told

end Keeper

end VoiceTicket
