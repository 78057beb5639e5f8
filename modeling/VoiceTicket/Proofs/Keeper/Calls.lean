/-
  What moves the keeper besides its runs.

  1. **Data** — `Moved k m k'`: the move `m` may lead from `k` to `k'`.  `Aside`: the peers, the
     user's side and the clock move on, and the keeper does not.

  2. **Specification** — one equation for each call (`start_of_wanted`, `start_of_unwanted`,
     `stop_eq`), and `moved`: every move does what is told of it.  The bookkeeping numbers the runs
     from one on (`Reachable.numbered`).

  3. **Crux** — what a keeper keeps through all moves is checked against the few things that a move
     can do (`Reachable.induct`), and not against all actions.
-/
import VoiceTicket.Proofs.Keeper.Frame

namespace VoiceTicket

/-- What a run does first, after some run or none. -/
def Phase.first : Option Nat → Phase
  | some run => .waiting run
  | none => .attempting

@[simp] theorem Phase.socket?_first (previous : Option Nat) :
    (Phase.first previous).socket? = none := by
  cases previous <;> rfl

namespace Keeper

variable {k k' : Keeper}

/-! ## Starting -/

/-- The keeper once a run has begun. -/
def begun (k : Keeper) : Keeper :=
  { k with
    link := ⟨true, 0, false, none, 0, k.link.run + 1⟩
    runs := k.runs ++ [⟨false, .first k.previous⟩]
    previous := some k.runs.length }

theorem start_of_wanted (wanted : k.link.wanted = true) : k.start = (false, k) := by
  simp [start, Link.start?, wanted]

theorem start_of_unwanted (unwanted : k.link.wanted = false) : k.start = (true, k.begun) := by
  have begins : k.link.start? = some ⟨true, 0, false, none, 0, k.link.run + 1⟩ := by
    simp [Link.start?, unwanted]
  unfold start
  rw [begins]
  cases previous : k.previous <;> simp [begun, Phase.first, previous]

/-- The runs of a keeper in which one more has begun. -/
theorem run_begun {i : Nat} {r : Run} (h : k.begun.runs[i]? = some r) :
    (i < k.runs.length ∧ k.runs[i]? = some r) ∨
      (i = k.runs.length ∧ r = ⟨false, .first k.previous⟩) := by
  have h : (k.runs ++ [(⟨false, .first k.previous⟩ : Run)])[i]? = some r := h
  rcases Nat.lt_trichotomy i k.runs.length with lt | rfl | gt
  · rw [List.getElem?_append_left lt] at h
    exact Or.inl ⟨lt, h⟩
  · rw [List.getElem?_concat_length] at h
    exact Or.inr ⟨rfl, (Option.some.inj h).symm⟩
  · rw [List.getElem?_eq_none (by simp; omega)] at h
    cases h

/-! ## Stopping -/

/-- Whether a socket is open. -/
def isOpenAt (k : Keeper) (socket : Nat) : Bool := (k.sockets[socket]?).any Socket.isOpen

/-- A socket that is closed is open no more, and all others are as they were. -/
theorem isOpenAt_closeSocket (k : Keeper) (closing socket : Nat) :
    (k.closeSocket closing).isOpenAt socket = (k.isOpenAt socket && closing != socket) := by
  simp only [isOpenAt, closeSocket, modifySocket, List.getElem?_modify]
  cases k.sockets[socket]? with
  | none => rfl
  | some s => by_cases same : closing = socket <;> simp [same, Socket.isOpen]

theorem isOpenAt_release (k : Keeper) (socket : Nat) :
    k.release.isOpenAt socket = (k.isOpenAt socket && k.live != some socket) := by
  cases live : k.live with
  | none => simp [release_of_none live]
  | some closing =>
    rw [release_of_some live]
    exact isOpenAt_closeSocket k closing socket

/-- The keeper once it was stopped: the last run is cancelled, and the closer at hand is run. -/
def stopped (k : Keeper) : Keeper :=
  { k.cancelLast with link := k.link.stop.2, live := none, sockets := k.release.sockets }

theorem stop_eq (k : Keeper) : k.stop.2 = k.stopped := by
  let cancelled := { k with link := k.link.stop.2 }.cancelLast
  show cancelled.release = _
  unfold stopped
  cases live : k.live with
  | none =>
    have atHand : cancelled.live = none := live
    rw [release_of_none live, release_of_none atHand]
    cases k
    cases live
    rfl
  | some socket =>
    have atHand : cancelled.live = some socket := live
    rw [release_of_some live, release_of_some atHand]
    rfl

theorem changed_stop (k : Keeper) : k.stop.1 = k.link.wanted := by
  show k.link.stop.1 = _
  unfold Link.stop
  cases wanted : k.link.wanted <;> simp

theorem wanted_stop (l : Link) : l.stop.2.wanted = false := by
  unfold Link.stop
  split
  · rfl
  · next unwanted => simpa using unwanted

/-- Cancelling changes no phase. -/
theorem phase_cancelLast (k : Keeper) (i : Nat) :
    (k.cancelLast.runs[i]?).map Run.phase = (k.runs[i]?).map Run.phase := by
  simp only [cancelLast, List.getElem?_modify, Option.map_eq_map, Option.map_map]
  cases k.runs[i]? with
  | none => rfl
  | some r => by_cases last : k.runs.length - 1 = i <;> simp [last]

/-! ## What goes on aside -/

/-- The sockets that are prepared for attempts to come. -/
def prepared (k : Keeper) : List Nat := k.dials.filterMap Dial.socket?

/-- Something has happened that is neither a call nor a step of a run. -/
structure Aside (k : Keeper) (m : Move) (k' : Keeper) : Prop where
  policy : k'.policy = k.policy
  link : k'.link = k.link
  live : k'.live = k.live
  previous : k'.previous = k.previous
  runs : k'.runs = k.runs
  signals : k'.signals = k.signals
  dialled : k'.dialled = k.dialled
  unknownCodes : k'.unknownCodes = k.unknownCodes
  opened : ∀ socket, k'.isOpenAt socket = k.isOpenAt socket
  logFails : k.logFails ≠ none → k'.logFails ≠ none
  intact : m.breaks = false → k'.urlFails = k.urlFails ∧ k'.logFails = k.logFails
  /-- At most one socket more is prepared, and it is a new one. -/
  supply : (k'.prepared = k.prepared ∧ k'.sockets.length = k.sockets.length) ∨
    (k'.prepared = k.prepared ++ [k.sockets.length] ∧ k'.sockets.length = k.sockets.length + 1)

/-- A socket changes in what its peer does only. -/
theorem isOpenAt_modifySocket (k : Keeper) (socket : Nat) {f : Socket → Socket}
    (same : ∀ s, (f s).isOpen = s.isOpen) (other : Nat) :
    (k.modifySocket socket f).isOpenAt other = k.isOpenAt other := by
  simp only [isOpenAt, modifySocket, List.getElem?_modify]
  cases k.sockets[other]? with
  | none => rfl
  | some s => by_cases h : socket = other <;> simp [h, same]

theorem aside_modifySocket (k : Keeper) (m : Move) (socket : Nat) {f : Socket → Socket}
    (same : ∀ s, (f s).isOpen = s.isOpen) : Aside k m (k.modifySocket socket f) where
  policy := rfl
  link := rfl
  live := rfl
  previous := rfl
  runs := rfl
  signals := rfl
  dialled := rfl
  unknownCodes := rfl
  opened := isOpenAt_modifySocket k socket same
  logFails := id
  intact := fun _ => ⟨rfl, rfl⟩
  supply := .inl ⟨rfl, by simp [modifySocket]⟩

theorem aside_refuse (k : Keeper) (m : Move) (faults : List ConnectFault) :
    Aside k m { k with dials := k.dials ++ faults.map .refused } := by
  refine ⟨rfl, rfl, rfl, rfl, rfl, rfl, rfl, rfl, fun _ => rfl, id, fun _ => ⟨rfl, rfl⟩,
    .inl ⟨?_, rfl⟩⟩
  have none : (faults.map Dial.refused).filterMap Dial.socket? = [] := by
    rw [List.filterMap_map, List.filterMap_eq_nil_iff]
    exact fun _ _ => rfl
  simp [prepared, none]

theorem aside_accept (k : Keeper) (m : Move) (gated stubborn : Bool) :
    Aside k m
      { k with
        dials := k.dials ++ [.accepted k.sockets.length]
        sockets := k.sockets ++ [.new gated stubborn] } := by
  refine ⟨rfl, rfl, rfl, rfl, rfl, rfl, rfl, rfl, ?_, id, fun _ => ⟨rfl, rfl⟩, .inr ⟨?_, ?_⟩⟩
  · intro socket
    simp only [isOpenAt, List.getElem?_append]
    split
    · rfl
    · next ge =>
      -- A socket that is prepared is not open yet.
      rw [List.getElem?_eq_none (Nat.le_of_not_lt ge), List.getElem?_singleton]
      split <;> rfl
  · simp [prepared, Dial.socket?]
  · simp

/-! ## What a move can do -/

/-- What the move `m` can do. -/
inductive Moved (k : Keeper) : Move → Keeper → Prop where
  /-- A connection is wanted already. -/
  | ignored (wanted : k.link.wanted = true) : Moved k .start k
  | begun (unwanted : k.link.wanted = false) : Moved k .start k.begun
  | stopped : Moved k .stop k.stopped
  | handedOver : Moved k .handOver { k with previous := none }
  /-- The run has to wait. -/
  | waits (run : Nat) (choice : Choice) (now : String) : Moved k (.go run choice now) k
  | turns {run : Nat} {choice : Choice} {now : String} {r : Run} {k' : Keeper}
      (h : k.runs[run]? = some r) (turn : Turn k now run r k') : Moved k (.go run choice now) k'
  | aside {m : Move} {k' : Keeper} (aside : Aside k m k') : Moved k m k'

/-- **Every move does one of these**. -/
theorem moved (k : Keeper) (m : Move) : Moved k m (k.move m) := by
  cases m with
  | handOver => exact .handedOver
  | go run choice now =>
    rcases move_go k run choice now with same | ⟨r, h, turn⟩
    · rw [same]
      exact .waits run choice now
    · exact .turns h turn
  | pass nanos =>
    refine .aside ?_
    exact ⟨rfl, rfl, rfl, rfl, rfl, rfl, rfl, rfl, fun _ => rfl, id, fun _ => ⟨rfl, rfl⟩,
      .inl ⟨rfl, rfl⟩⟩
  | act action instant =>
    cases action with
    | start =>
      show Moved k .start k.start.2
      cases wanted : k.link.wanted with
      | true =>
        rw [start_of_wanted wanted]
        exact .ignored wanted
      | false =>
        rw [start_of_unwanted wanted]
        exact .begun wanted
    | stop =>
      show Moved k .stop k.stop.2
      rw [stop_eq]
      exact .stopped
    | shutdown => cases instant
    | wait nanos => cases instant
    | refuse faults => exact .aside (aside_refuse k _ faults)
    | accept gated stubborn => exact .aside (aside_accept k _ gated stubborn)
    | send socket event =>
      exact .aside (aside_modifySocket k _ socket fun s => s.isOpen_deliver event)
    | hangUp socket => exact .aside (aside_modifySocket k _ socket fun _ => rfl)
    | openGate socket => exact .aside (aside_modifySocket k _ socket fun _ => rfl)
    | setBaseUrl url | store operation =>
      refine .aside ?_
      exact ⟨rfl, rfl, rfl, rfl, rfl, rfl, rfl, rfl, fun _ => rfl, id, fun _ => ⟨rfl, rfl⟩,
        .inl ⟨rfl, rfl⟩⟩
    | failUrl =>
      refine .aside ?_
      exact ⟨rfl, rfl, rfl, rfl, rfl, rfl, rfl, rfl, fun _ => rfl, id, nofun, .inl ⟨rfl, rfl⟩⟩
    | failLogAfter spared =>
      refine .aside ?_
      exact ⟨rfl, rfl, rfl, rfl, rfl, rfl, rfl, rfl, fun _ => rfl,
        fun _ => Option.some_ne_none spared, nofun, .inl ⟨rfl, rfl⟩⟩

/-- What holds at first and is kept by all that a move can do holds whatever happens. -/
theorem Reachable.induct {P : Keeper → Prop} (first : ∀ policy baseUrl, P (new policy baseUrl))
    (step : ∀ k m k', P k → Moved k m k' → P k') (reachable : k.Reachable) : P k := by
  obtain ⟨policy, baseUrl, moves, rfl⟩ := reachable
  suffices ∀ k, P k → P (k.after moves) from this _ (first policy baseUrl)
  induction moves with
  | nil => exact fun k holds => holds
  | cons m moves ih => exact fun k holds => ih _ (step k m _ holds (moved k m))

/-! ## Numbers -/

@[simp] theorem number_stop (l : Link) : l.stop.2.run = l.run := by
  unfold Link.stop
  split <;> rfl

/-- The bookkeeping numbers the runs from one on. -/
theorem Reachable.numbered (reachable : k.Reachable) : k.link.run = k.runs.length := by
  refine reachable.induct (P := fun k => k.link.run = k.runs.length) (fun _ _ => rfl) ?_
  intro k m k' numbered moved
  cases moved with
  | ignored | handedOver | waits => exact numbered
  | begun => simp [begun, numbered]
  | stopped => simp [stopped, cancelLast, numbered]
  | turns h turn =>
    obtain ⟨p, shift⟩ := turn.shift h
    rw [shift.number, shift.runs, List.length_modify, numbered]
  | aside aside => rw [aside.link, aside.runs, numbered]

/-- Numbers only grow. -/
theorem Moved.number_le {m : Move} (moved : Moved k m k') : k.link.run ≤ k'.link.run := by
  cases moved with
  | ignored | handedOver | waits => exact Nat.le_refl _
  | begun => exact Nat.le_succ _
  | stopped => exact Nat.le_of_eq (number_stop k.link).symm
  | turns h turn =>
    obtain ⟨p, shift⟩ := turn.shift h
    exact Nat.le_of_eq shift.number.symm
  | aside aside => exact Nat.le_of_eq (by rw [aside.link])

theorem number_le_after (k : Keeper) (moves : List Move) :
    k.link.run ≤ (k.after moves).link.run := by
  induction moves generalizing k with
  | nil => exact Nat.le_refl _
  | cons m moves ih => exact Nat.le_trans (moved k m).number_le (ih (k.move m))

end Keeper

end VoiceTicket
