/-
  What the peers send.

  1. **Data** — `Keeper.arrivals` is all that the peer of a socket has sent in the course of some
     moves, in order.

  2. **Specification** — `Pristine`: a socket that has not opened yet holds all of it, unread, and
     its closer has not run; this is so whatever happens (`pristine_after`).

  3. **Crux** — who reads from a socket, or has its closer at hand, has seen it open; and a socket
     is opened by the one run that it was handed to.
-/
import VoiceTicket.Proofs.Keeper.Deeds

namespace VoiceTicket

/-- The socket that a run in this phase reads from. -/
def Phase.listened? : Phase → Option Nat
  | .reading socket | .draining socket _ => some socket
  | .waiting _ | .attempting | .connecting _ | .sleeping _ | .ended => none

/-- A socket has taken in some events, and nobody has read from it or closed it. -/
structure Socket.Grows (s : Socket) (events : List SocketEvent) (s' : Socket) : Prop where
  queue : s'.queue = s.queue ++ events
  opened : s'.opened = s.opened
  closed : s'.closed = s.closed
  hungUp : s.hungUp = true → s'.hungUp = true

/-- Reading changes nothing but what is unread. -/
theorem Socket.next?_eq {s s' : Socket} {e : SocketEvent} (h : s.next? = some (e, s')) :
    s' = { s with queue := s'.queue } := by
  unfold next? at h
  split at h
  · cases h; rfl
  · split at h
    · cases h; rfl
    · split at h
      · cases h; rfl
      · cases h

theorem Socket.Grows.refl (s : Socket) : s.Grows [] s :=
  ⟨(List.append_nil _).symm, rfl, rfl, id⟩

namespace Keeper

variable {k k' : Keeper} {now : String} {run : Nat} {r : Run}

/-! ## What arrives -/

/-- What a move brings to a socket: what its peer sends, unless that has hung up. -/
def arrives (k : Keeper) (socket : Nat) : Move → List SocketEvent
  | .act (.send target event) _ =>
    if target = socket ∧ (k.sockets[socket]?).any (!·.hungUp) = true then [event] else []
  | _ => []

/-- What some moves bring to a socket, in order. -/
def arrivals (k : Keeper) (socket : Nat) : List Move → List SocketEvent
  | [] => []
  | m :: moves => k.arrives socket m ++ (k.move m).arrivals socket moves

theorem arrivals_append (k : Keeper) (socket : Nat) (moves moves' : List Move) :
    k.arrivals socket (moves ++ moves')
      = k.arrivals socket moves ++ (k.after moves).arrivals socket moves' := by
  induction moves generalizing k with
  | nil => rfl
  | cons m moves ih => simp [arrivals, ih]

theorem arrivals_concat (k : Keeper) (socket : Nat) (moves : List Move) (m : Move) :
    k.arrivals socket (moves ++ [m])
      = k.arrivals socket moves ++ (k.after moves).arrives socket m := by
  simp [arrivals_append, arrivals]

/-- Nothing arrives from a peer that has hung up. -/
theorem arrives_of_hungUp {socket : Nat} {s : Socket} (found : k.sockets[socket]? = some s)
    (hungUp : s.hungUp = true) (m : Move) : k.arrives socket m = [] := by
  unfold arrives
  split
  · rw [if_neg]
    simp [found, hungUp]
  · rfl

theorem arrives_of_none {socket : Nat} (none : k.sockets[socket]? = none) (m : Move) :
    k.arrives socket m = [] := by
  unfold arrives
  split
  · rw [if_neg]
    simp [none]
  · rfl

theorem sockets_start (k : Keeper) : k.start.2.sockets = k.sockets := by
  cases wanted : k.link.wanted with
  | true => rw [start_of_wanted wanted]
  | false => rw [start_of_unwanted wanted]; rfl

/-- A change to one socket is seen at that socket only. -/
theorem getElem?_modifySocket (k : Keeper) (changed : Nat) (f : Socket → Socket) (socket : Nat) :
    (k.modifySocket changed f).sockets[socket]?
      = (k.sockets[socket]?).map fun s => if changed = socket then f s else s := by
  rw [modifySocket, List.getElem?_modify]
  by_cases same : changed = socket <;> cases k.sockets[socket]? <;> simp [same]

theorem getElem?_modifySocket_of_ne (k : Keeper) {changed socket : Nat} (ne : changed ≠ socket)
    (f : Socket → Socket) : (k.modifySocket changed f).sockets[socket]? = k.sockets[socket]? := by
  rw [getElem?_modifySocket]
  simp [ne]

theorem getElem?_readNext? {own socket : Nat} {e : SocketEvent}
    (read : k.readNext? own = some (e, k')) (ne : own ≠ socket) :
    k'.sockets[socket]? = k.sockets[socket]? := by
  obtain ⟨_, _, _, _, rfl⟩ := readNext?_eq read
  exact getElem?_modifySocket_of_ne k ne _

/-- The closer at hand closes its own socket, and no other one. -/
theorem getElem?_release (k : Keeper) (socket : Nat) :
    k.release.sockets[socket]? = k.sockets[socket]? ∨
      k.release.sockets[socket]?
        = (k.sockets[socket]?).map fun s => { s with closed := true } := by
  cases live : k.live with
  | none => exact Or.inl (by rw [release_of_none live])
  | some closing =>
    rw [release_of_some live]
    by_cases same : closing = socket
    · refine Or.inr ((getElem?_modifySocket k closing _ socket).trans ?_)
      simp [same]
    · exact Or.inl (getElem?_modifySocket_of_ne k same _)

section
variable {p : Socket → Bool}

theorem any_modifySocket (k : Keeper) (changed : Nat) {f : Socket → Socket}
    (same : ∀ s, p (f s) = p s) (socket : Nat) :
    ((k.modifySocket changed f).sockets[socket]?).any p = (k.sockets[socket]?).any p := by
  rw [getElem?_modifySocket]
  cases k.sockets[socket]? with
  | none => rfl
  | some s => by_cases at_ : changed = socket <;> simp [at_, same]

/-- Closing changes nothing else about a socket. -/
theorem any_release (k : Keeper) (same : ∀ s : Socket, p { s with closed := true } = p s)
    (socket : Nat) : (k.release.sockets[socket]?).any p = (k.sockets[socket]?).any p := by
  cases live : k.live with
  | none => rw [release_of_none live]
  | some closing =>
    rw [release_of_some live]
    exact any_modifySocket k closing same socket

/-- Reading changes nothing else about a socket. -/
theorem any_readNext? {socket : Nat} {e : SocketEvent} (read : k.readNext? socket = some (e, k'))
    (same : ∀ (s : Socket) queue, p { s with queue } = p s) (other : Nat) :
    (k'.sockets[other]?).any p = (k.sockets[other]?).any p := by
  obtain ⟨s, s', found, next, rfl⟩ := readNext?_eq read
  rw [getElem?_modifySocket]
  by_cases at_ : socket = other
  · subst at_
    rw [found, Option.map_some, if_pos rfl, Socket.next?_eq next]
    exact same s s'.queue
  · cases k.sockets[other]? <;> simp [at_]

end

/-- Only a run reads from a socket, and only a run or a stop closes one. -/
theorem grows_move {m : Move} {socket : Nat} {s : Socket} (found : k.sockets[socket]? = some s)
    (still : ∀ run choice now, m ≠ .go run choice now) (unstopped : m ≠ .stop) :
    ∃ s', (k.move m).sockets[socket]? = some s' ∧ s.Grows (k.arrives socket m) s' := by
  cases m with
  | go run choice now => exact absurd rfl (still run choice now)
  | handOver | pass => exact ⟨s, found, .refl s⟩
  | act action instant =>
    cases action with
    | stop => exact absurd rfl unstopped
    | start => exact ⟨s, by rw [move_start, sockets_start, found], .refl s⟩
    | shutdown | wait => cases instant
    | accept gated stubborn =>
      refine ⟨s, ?_, .refl s⟩
      show (k.sockets ++ [Socket.new gated stubborn])[socket]? = some s
      rw [List.getElem?_append_left (List.getElem?_eq_some_iff.1 found).1, found]
    | send target event =>
      refine ⟨if target = socket then s.deliver event else s, ?_, ?_⟩
      · show (k.modifySocket target (·.deliver event)).sockets[socket]? = _
        rw [getElem?_modifySocket, found]
        rfl
      · simp only [arrives, found, Option.any_some]
        by_cases same : target = socket
        · cases hungUp : s.hungUp with
          | true => simpa [same, Socket.deliver, hungUp] using Socket.Grows.refl s
          | false => simpa [same, Socket.deliver, hungUp] using ⟨rfl, rfl, rfl, by simp [hungUp]⟩
        · simpa [same] using Socket.Grows.refl s
    | hangUp target =>
      refine ⟨if target = socket then { s with hungUp := true } else s, ?_, ?_⟩
      · show (k.modifySocket target fun s => { s with hungUp := true }).sockets[socket]? = _
        rw [getElem?_modifySocket, found]
        rfl
      · split
        · exact ⟨(List.append_nil _).symm, rfl, rfl, fun _ => rfl⟩
        · exact .refl s
    | openGate target =>
      refine ⟨if target = socket then { s with gated := false } else s, ?_, ?_⟩
      · show (k.modifySocket target fun s => { s with gated := false }).sockets[socket]? = _
        rw [getElem?_modifySocket, found]
        rfl
      · split
        · exact ⟨(List.append_nil _).symm, rfl, rfl, id⟩
        · exact .refl s
    | refuse | setBaseUrl | failUrl | failLogAfter | store => exact ⟨s, found, .refl s⟩

/-! ## Sockets that have not opened -/

/-- Whether a socket has opened. -/
def hasOpened (k : Keeper) (socket : Nat) : Bool := (k.sockets[socket]?).any Socket.opened

/-- Sockets that have not opened are as their peers have left them, who have sent what is listed. -/
structure Pristine (k : Keeper) (sent : Nat → List SocketEvent) : Prop where
  unborn : ∀ socket, k.sockets[socket]? = none → sent socket = []
  unread : ∀ (socket : Nat) (s : Socket), k.sockets[socket]? = some s → s.opened = false →
    s.closed = false ∧ s.queue = sent socket
  live : ∀ socket, k.live = some socket → k.hasOpened socket = true
  listened : ∀ run p socket, k.phase? run = some p → p.listened? = some socket →
    k.hasOpened socket = true
  dialled : ∀ run socket, k.phase? run = some (.connecting (some (.accepted socket))) →
    k.hasOpened socket = false
  prepared : ∀ socket ∈ k.prepared, k.hasOpened socket = false

variable {sent : Nat → List SocketEvent}

theorem hasOpened_of_sockets (sockets : k'.sockets = k.sockets) (socket : Nat) :
    k'.hasOpened socket = k.hasOpened socket := by
  rw [hasOpened, hasOpened, sockets]

theorem hasOpened_release (k : Keeper) (socket : Nat) :
    k.release.hasOpened socket = k.hasOpened socket :=
  any_release k (fun _ => rfl) socket

theorem hasOpened_of_unread {socket : Nat} {s : Socket} (found : k.sockets[socket]? = some s)
    (opened : k.hasOpened socket = true) : s.opened = true := by
  rwa [hasOpened, found, Option.any_some] at opened

/-- What is pristine is a matter of the sockets, the closer at hand, the attempts and the phases. -/
theorem Pristine.of_phases (pristine : Pristine k sent) (sockets : k'.sockets = k.sockets)
    (live : k'.live = k.live ∨ k'.live = none) (prepared : ∀ s ∈ k'.prepared, s ∈ k.prepared)
    (phases : ∀ i p, k'.phase? i = some p → p.socket? = none ∨ k.phase? i = some p) :
    Pristine k' sent := by
  refine ⟨?_, ?_, ?_, ?_, ?_, ?_⟩
  · rw [sockets]
    exact pristine.unborn
  · rw [sockets]
    exact pristine.unread
  · intro socket atHand
    rw [hasOpened_of_sockets sockets]
    rcases live with same | none
    · exact pristine.live socket (same ▸ atHand)
    · rw [none] at atHand
      cases atHand
  · intro i p socket phase listened
    rw [hasOpened_of_sockets sockets]
    rcases phases i p phase with none | before
    · cases p <;> cases listened <;> cases none
    · exact pristine.listened i p socket before listened
  · intro i socket phase
    rw [hasOpened_of_sockets sockets]
    rcases phases i _ phase with none | before
    · cases none
    · exact pristine.dialled i socket before
  · intro socket mem
    rw [hasOpened_of_sockets sockets]
    exact pristine.prepared socket (prepared socket mem)

theorem phase?_setPhase_cases {p q : Phase} {i : Nat}
    (phase : (k.setPhase run p).phase? i = some q) :
    (i = run ∧ q = p) ∨ (i ≠ run ∧ k.phase? i = some q) := by
  rw [phase?, setPhase, List.getElem?_modify] at phase
  rw [phase?]
  cases found : k.runs[i]? with
  | none => simp [found] at phase
  | some r =>
    by_cases same : run = i
    · simp only [found, same, if_true, Option.map_eq_map, Option.map_some] at phase
      exact Or.inl ⟨same.symm, (Option.some.inj phase).symm⟩
    · simp only [found, same, if_false, Option.map_eq_map, Option.map_some] at phase
      exact Or.inr ⟨Ne.symm same, phase⟩

/-- A run lets go of its socket. -/
theorem Pristine.setPhase (pristine : Pristine k sent) {p : Phase} (free : p.socket? = none) :
    Pristine (k.setPhase run p) sent := by
  refine pristine.of_phases rfl (.inl rfl) (fun _ => id) fun i q phase => ?_
  rcases phase?_setPhase_cases phase with ⟨_, rfl⟩ | ⟨_, before⟩
  · exact Or.inl free
  · exact Or.inr before

/-- Whatever changes neither a socket nor a phase. -/
theorem Pristine.of_same (pristine : Pristine k sent) (sockets : k'.sockets = k.sockets)
    (live : k'.live = k.live) (dials : k'.dials = k.dials) (runs : k'.runs = k.runs) :
    Pristine k' sent := by
  refine pristine.of_phases sockets (.inl live) ?_ ?_
  · rw [Keeper.prepared, Keeper.prepared, dials]
    exact fun _ => id
  · intro i p phase
    rw [phase?, runs] at phase
    exact Or.inr phase

/-- A run waits for the close of a socket that has opened. -/
theorem Pristine.drain (pristine : Pristine k sent) {socket : Nat}
    (opened : k.hasOpened socket = true) : Pristine (k.drain run socket) sent := by
  refine ⟨pristine.unborn, pristine.unread, pristine.live, ?_, ?_, pristine.prepared⟩
  · intro i p other phase listened
    rcases phase?_setPhase_cases phase with ⟨_, rfl⟩ | ⟨_, before⟩
    · cases listened
      exact opened
    · exact pristine.listened i p other before listened
  · intro i other phase
    rcases phase?_setPhase_cases phase with ⟨_, same⟩ | ⟨_, before⟩
    · cases same
    · exact pristine.dialled i other before

/-- A socket that has opened may change as it likes, but for having opened. -/
theorem Pristine.modifySocket (pristine : Pristine k sent) {socket : Nat} {f : Socket → Socket}
    (opened : k.hasOpened socket = true) (still : ∀ s, s.opened = true → (f s).opened = true) :
    Pristine (k.modifySocket socket f) sent := by
  have same (other : Nat) : (k.modifySocket socket f).hasOpened other = k.hasOpened other := by
    rw [hasOpened, hasOpened, getElem?_modifySocket]
    by_cases at_ : socket = other
    · subst at_
      cases found : k.sockets[socket]? with
      | none => rfl
      | some s =>
        have before := hasOpened_of_unread found opened
        simp [before, still s before]
    · cases k.sockets[other]? <;> simp [at_]
  refine ⟨?_, ?_, ?_, ?_, ?_, ?_⟩
  · intro other none
    rw [getElem?_modifySocket, Option.map_eq_none_iff] at none
    exact pristine.unborn other none
  · intro other s found closed
    rw [getElem?_modifySocket, Option.map_eq_some_iff] at found
    obtain ⟨s₀, found, rfl⟩ := found
    by_cases at_ : socket = other
    · subst at_
      rw [if_pos rfl, still s₀ (hasOpened_of_unread found opened)] at closed
      cases closed
    · rw [if_neg at_] at closed ⊢
      exact pristine.unread other s₀ found closed
  · exact fun other atHand => same other ▸ pristine.live other atHand
  · exact fun i p other phase listened => same other ▸ pristine.listened i p other phase listened
  · exact fun i other phase => same other ▸ pristine.dialled i other phase
  · exact fun other mem => same other ▸ pristine.prepared other mem

theorem Pristine.release (pristine : Pristine k sent) : Pristine k.release sent := by
  cases live : k.live with
  | none =>
    rw [release_of_none live]
    exact pristine
  | some socket =>
    rw [release_of_some live]
    have closed : Pristine (k.closeSocket socket) sent :=
      pristine.modifySocket (pristine.live socket live) fun _ => id
    exact closed.of_phases rfl (.inr rfl) (fun _ => id) fun _ _ => Or.inr

theorem Pristine.readNext? (pristine : Pristine k sent) {socket : Nat} {e : SocketEvent}
    (opened : k.hasOpened socket = true) (read : k.readNext? socket = some (e, k')) :
    Pristine k' sent := by
  obtain ⟨s, s', found, next, rfl⟩ := readNext?_eq read
  have still : s'.opened = true := by
    rw [Socket.next?_eq next]
    show s.opened = true
    exact hasOpened_of_unread found opened
  exact pristine.modifySocket opened fun _ _ => still

theorem hasOpened_readNext? {socket : Nat} {e : SocketEvent}
    (read : k.readNext? socket = some (e, k')) (other : Nat) :
    k'.hasOpened other = k.hasOpened other :=
  any_readNext? read (fun _ _ => rfl) other

theorem Retry.pristine (retry : Retry k run k') (heeded : k.logFails = none)
    (pristine : Pristine k sent) : Pristine k' sent := by
  rcases retry.cases_of_heeded heeded with ⟨share, delay, _, rfl⟩ | ⟨share, _, rfl⟩
  · have same : Pristine ({ k with link := k.link.failed.retrying delay }.told
        [.log .info (retryMessage delay k.link.failed.attempt)]) sent :=
      pristine.of_same rfl rfl rfl rfl
    exact same.setPhase (p := .sleeping _) rfl
  · have same : Pristine { k with link := k.link.failed } sent :=
      pristine.of_same rfl rfl rfl rfl
    exact same.setPhase (p := .ended) rfl

/-- The socket that a run was handed opens, and the run goes on to listen to it. -/
theorem Pristine.opens (pristine : Pristine k sent) {socket : Nat} {p : Phase} {f : Socket → Socket}
    (owns : Owns k run socket)
    (opened : ∀ s, (f s).opened = true) (listens : p.listened? = some socket)
    (sockets : k'.sockets = k.sockets.modify socket f)
    (live : k'.live = k.live ∨ k'.live = some socket) (prepared : k'.prepared = k.prepared)
    (phases : ∀ i q, k'.phase? i = some q → (i = run ∧ q = p) ∨ (i ≠ run ∧ k.phase? i = some q)) :
    Pristine k' sent := by
  have found (other : Nat) :
      k'.sockets[other]? = (k.sockets[other]?).map fun s => if socket = other then f s else s := by
    rw [sockets]
    exact getElem?_modifySocket k socket f other
  have others {other : Nat} (ne : socket ≠ other) : k'.hasOpened other = k.hasOpened other := by
    rw [hasOpened, hasOpened, found]
    cases k.sockets[other]? <;> simp [ne]
  have itself : k'.hasOpened socket = true := by
    rw [hasOpened, found, List.getElem?_eq_getElem owns.exists_]
    simp [opened]
  refine ⟨?_, ?_, ?_, ?_, ?_, ?_⟩
  · intro other none
    rw [found, Option.map_eq_none_iff] at none
    exact pristine.unborn other none
  · intro other s at_ unopened
    rw [found, Option.map_eq_some_iff] at at_
    obtain ⟨s₀, before, rfl⟩ := at_
    by_cases same : socket = other
    · rw [if_pos same, opened] at unopened
      cases unopened
    · rw [if_neg same] at unopened ⊢
      exact pristine.unread other s₀ before unopened
  · intro other atHand
    by_cases same : socket = other
    · exact same ▸ itself
    · rw [others same]
      rcases live with kept | own
      · exact pristine.live other (kept ▸ atHand)
      · exact absurd (Option.some.inj (own.symm.trans atHand)) same
  · intro i q other phase' listened
    by_cases same : socket = other
    · exact same ▸ itself
    · rw [others same]
      rcases phases i q phase' with ⟨_, rfl⟩ | ⟨_, before⟩
      · exact absurd (Option.some.inj (listens.symm.trans listened)) same
      · exact pristine.listened i q other before listened
  · intro i other phase'
    rcases phases i _ phase' with ⟨_, rfl⟩ | ⟨ne, before⟩
    · cases listens
    · rw [others]
      · exact pristine.dialled i other before
      · -- Nobody else was handed the socket.
        rintro rfl
        obtain ⟨r, at_, isDial⟩ := Option.map_eq_some_iff.1 before
        exact ne (owns.alone i ⟨r, at_, by rw [isDial]; rfl⟩)
  · intro other mem
    rw [prepared] at mem
    rw [others]
    · exact pristine.prepared other mem
    · rintro rfl
      exact owns.gone mem

/-- A run makes an attempt, which takes what is prepared first. -/
theorem Pristine.dial (pristine : Pristine k sent) (run : Nat) (url : Url) :
    Pristine (k.dial run url) sent := by
  have supply : (k.dial run url).prepared ⊆ k.prepared := by
    intro socket mem
    obtain ⟨dial, listed, given⟩ := List.mem_filterMap.1 mem
    exact List.mem_filterMap.2 ⟨dial, List.mem_of_mem_tail listed, given⟩
  refine ⟨pristine.unborn, pristine.unread, pristine.live, ?_, ?_, ?_⟩
  · intro i p socket phase listened
    rcases phase?_setPhase_cases phase with ⟨_, rfl⟩ | ⟨_, before⟩
    · cases listened
    · exact pristine.listened i p socket before listened
  · intro i socket phase
    rcases phase?_setPhase_cases phase with ⟨_, same⟩ | ⟨_, before⟩
    · refine pristine.prepared socket (List.mem_filterMap.2 ⟨.accepted socket, ?_, rfl⟩)
      exact List.mem_of_head? (Phase.connecting.inj same).symm
    · exact pristine.dialled i socket before
  · exact fun socket mem => pristine.prepared socket (supply mem)

theorem Turn.pristine (turn : Turn k now run r k') (h : k.runs[run]? = some r) (intact : Intact k)
    (dealt : Dealt k) (pristine : Pristine k sent) : Pristine k' sent := by
  have listens {p : Phase} {socket : Nat} (phase : r.phase = p)
      (listened : p.listened? = some socket) : k.hasOpened socket = true :=
    pristine.listened run p socket (by rw [phase?_of_run h, phase]) listened
  cases turn with
  | resumed | quit => exact pristine.setPhase rfl
  | unasked _ fails =>
    rw [intact.asked] at fails
    cases fails
  | @dialled url =>
    have same : Pristine (k.told [.log .info ("Connecting to " ++ url.text)]) sent :=
      pristine.of_same rfl rfl rfl rfl
    exact same.dial run url
  | @rejected fault _ _ _ _ retry =>
    have same : Pristine (k.told [.log .error fault.message]) sent :=
      pristine.of_same rfl rfl rfl rfl
    exact retry.pristine (heeded_told intact.heeded) same
  | @refused fault _ _ _ retry =>
    have same : Pristine (k.down .error ("Connection failed: " ++ fault.message)) sent :=
      pristine.of_same rfl rfl rfl rfl
    exact retry.pristine (heeded_down intact.heeded) same
  | @registered socket _ phase =>
    have owns := dealt.owned run socket ⟨r, h, by rw [phase]; rfl⟩
    refine pristine.opens (p := .reading socket) (f := fun s => { s with opened := true }) owns
      (fun _ => rfl) rfl rfl (.inr rfl) rfl fun i q at_ => ?_
    exact phase?_setPhase_cases at_
  | @late socket _ phase =>
    have owns := dealt.owned run socket ⟨r, h, by rw [phase]; rfl⟩
    refine pristine.opens (p := .draining socket (k.clock + closeGrace)) owns
      (f := fun s => { s with opened := true, closed := true }) (fun _ => rfl) rfl ?_ (.inl rfl) rfl
      fun i q at_ => ?_
    · show (k.sockets.modify socket _).modify socket _ = _
      rw [List.modify_modify_eq]
      rfl
    · exact phase?_setPhase_cases at_
  | heard phase _ read | erred phase _ read =>
    have taken := pristine.readNext? (listens phase rfl) read
    exact taken.of_same rfl rfl rfl rfl
  | skipped phase read => exact pristine.readNext? (listens phase rfl) read
  | @closed socket reason k₁ _ phase _ read retry =>
    have released := (pristine.readNext? (listens phase rfl) read).release
    have same : Pristine (k₁.release.down .warn (closedMessage reason)) sent :=
      released.of_same rfl rfl rfl rfl
    have after := (intact.readNext? read).release
    exact retry.pristine (heeded_down after.heeded) same
  | dropped phase _ read =>
    have released := (pristine.readNext? (listens phase rfl) read).release
    exact released.setPhase rfl
  | @left socket k₁ phase _ read =>
    have opened := listens phase rfl
    rcases read with rfl | ⟨e, read⟩
    · exact pristine.release.drain (by rw [hasOpened_release, opened])
    · refine (pristine.readNext? opened read).release.drain ?_
      rw [hasOpened_release, hasOpened_readNext? read, opened]
  | drained phase read =>
    rcases read with ⟨rfl, _⟩ | ⟨reason, read⟩
    · exact pristine.setPhase rfl
    · exact (pristine.readNext? (listens phase rfl) read).setPhase rfl
  | woken =>
    have same : Pristine { k with link := k.link.retryFired } sent :=
      pristine.of_same rfl rfl rfl rfl
    exact same.setPhase rfl
  | failed _ _ fails => exact absurd intact.heeded fails

/-! ## Every move -/

/-- A socket that was not there before is as it is prepared. -/
theorem born_move {m : Move} {socket : Nat} {s : Socket} (none : k.sockets[socket]? = none)
    (still : ∀ run choice now, m ≠ .go run choice now) (unstopped : m ≠ .stop)
    (found : (k.move m).sockets[socket]? = some s) :
    s.opened = false ∧ s.closed = false ∧ s.queue = [] := by
  have never {P : Prop} (found : k.sockets[socket]? = some s) : P := by
    rw [none] at found
    cases found
  have modified {target : Nat} {f : Socket → Socket} {P : Prop}
      (found : (k.modifySocket target f).sockets[socket]? = some s) : P := by
    rw [getElem?_modifySocket, none] at found
    cases found
  cases m with
  | go run choice now => exact absurd rfl (still run choice now)
  | handOver | pass => exact never found
  | act action instant =>
    cases action with
    | stop => exact absurd rfl unstopped
    | start =>
      rw [move_start, sockets_start] at found
      exact never found
    | shutdown | wait => cases instant
    | accept gated stubborn =>
      have found : (k.sockets ++ [Socket.new gated stubborn])[socket]? = some s := found
      rw [List.getElem?_append_right (List.getElem?_eq_none_iff.1 none),
        List.getElem?_singleton] at found
      split at found
      · cases found
        exact ⟨rfl, rfl, rfl⟩
      · cases found
    | send | hangUp | openGate => exact modified found
    | refuse | setBaseUrl | failUrl | failLogAfter | store => exact never found

theorem hasOpened_move {m : Move} (still : ∀ run choice now, m ≠ .go run choice now)
    (unstopped : m ≠ .stop) (socket : Nat) :
    (k.move m).hasOpened socket = k.hasOpened socket := by
  rw [hasOpened, hasOpened]
  cases found : k.sockets[socket]? with
  | some s =>
    obtain ⟨s', found', grows⟩ := grows_move found still unstopped
    simp [found', grows.opened]
  | none =>
    cases found' : (k.move m).sockets[socket]? with
    | none => rfl
    | some s => simp [(born_move found still unstopped found').1]

/-- Callers, peers and time leave the closer at hand and the runs alone, but for one that begins. -/
theorem Moved.still {m : Move} (moved : Moved k m k')
    (still : ∀ run choice now, m ≠ .go run choice now) (unstopped : m ≠ .stop) :
    k'.live = k.live ∧ (∀ i p, k'.phase? i = some p → p.socket? = none ∨ k.phase? i = some p) ∧
      ∀ socket ∈ k'.prepared, socket ∈ k.prepared ∨ k.sockets[socket]? = none := by
  cases moved with
  | ignored | handedOver => exact ⟨rfl, fun _ _ => Or.inr, fun _ => Or.inl⟩
  | begun =>
    refine ⟨rfl, fun i p phase => ?_, fun _ => Or.inl⟩
    rw [phase?_begun] at phase
    split at phase
    · rw [← Option.some.inj phase]
      exact Or.inl (Phase.socket?_first k.previous)
    · exact Or.inr phase
  | stopped => exact absurd rfl unstopped
  | waits | turns => exact absurd rfl (still _ _ _)
  | aside aside =>
    refine ⟨aside.live, fun i p phase => ?_, fun socket mem => ?_⟩
    · rw [phase?, aside.runs] at phase
      exact Or.inr phase
    · rcases aside.supply with ⟨prepared, _⟩ | ⟨prepared, _⟩
      · exact Or.inl (prepared ▸ mem)
      · rw [prepared, List.mem_append, List.mem_singleton] at mem
        exact mem.imp id fun same => List.getElem?_eq_none_iff.2 (Nat.le_of_eq same.symm)

/-- What callers, peers and time do leaves unopened sockets to their peers. -/
theorem Pristine.still {m : Move} (pristine : Pristine k sent)
    (still : ∀ run choice now, m ≠ .go run choice now) (unstopped : m ≠ .stop) :
    Pristine (k.move m) fun socket => sent socket ++ k.arrives socket m := by
  have same := fun socket => hasOpened_move (k := k) still unstopped socket
  obtain ⟨live, phases, prepared⟩ := (moved k m).still still unstopped
  refine ⟨?_, ?_, ?_, ?_, ?_, ?_⟩
  · intro socket none
    cases found : k.sockets[socket]? with
    | none => simp [pristine.unborn socket found, arrives_of_none found]
    | some s =>
      obtain ⟨s', found', _⟩ := grows_move found still unstopped
      rw [none] at found'
      cases found'
  · intro socket s found' unopened
    cases found : k.sockets[socket]? with
    | none =>
      obtain ⟨_, unclosed, empty⟩ := born_move found still unstopped found'
      refine ⟨unclosed, ?_⟩
      rw [empty, pristine.unborn socket found, arrives_of_none found]
      rfl
    | some s₀ =>
      obtain ⟨s₁, found₁, grows⟩ := grows_move found still unstopped
      rw [found'] at found₁
      cases found₁
      obtain ⟨unclosed, queue⟩ := pristine.unread socket s₀ found (grows.opened ▸ unopened)
      exact ⟨grows.closed.trans unclosed, by rw [grows.queue, queue]⟩
  · intro socket atHand
    rw [same]
    exact pristine.live socket (live ▸ atHand)
  · intro i p socket phase listened
    rw [same]
    rcases phases i p phase with none | before
    · cases p <;> cases listened <;> cases none
    · exact pristine.listened i p socket before listened
  · intro i socket phase
    rw [same]
    rcases phases i _ phase with none | before
    · cases none
    · exact pristine.dialled i socket before
  · intro socket mem
    rw [same]
    rcases prepared socket mem with before | none
    · exact pristine.prepared socket before
    · rw [hasOpened, none]
      rfl

theorem Pristine.stopped (pristine : Pristine k sent) : Pristine k.stopped sent := by
  refine pristine.release.of_phases rfl (.inr rfl) (fun _ => ?_) fun i p phase => ?_
  · rw [Keeper.prepared, Keeper.prepared, (alike_release k).dials]
    exact id
  · have before : k.stopped.phase? i = k.phase? i := phase_cancelLast k i
    rw [phase?_release, ← before]
    exact Or.inr phase

theorem Pristine.move {m : Move} (pristine : Pristine k sent) (sound : Sound k) :
    Pristine (k.move m) fun socket => sent socket ++ k.arrives socket m := by
  have brings (nothing : ∀ socket, k.arrives socket m = []) :
      (fun socket => sent socket ++ k.arrives socket m) = sent := by
    funext socket
    rw [nothing, List.append_nil]
  rcases m.go_or_still with ⟨run, choice, now, rfl⟩ | still
  · rw [brings fun _ => rfl]
    rcases move_go k run choice now with same | ⟨r, h, turn⟩
    · rw [same]
      exact pristine
    · exact turn.pristine h sound.intact sound.reachable.dealt pristine
  · by_cases isStop : m = .stop
    · subst isStop
      rw [brings fun _ => rfl, move_stop, stop_eq]
      exact pristine.stopped
    · exact pristine.still still isStop

/-- **What has arrived at a socket that has not opened is still there**, whatever happens. -/
theorem pristine_after (policy : Policy) (baseUrl : String) {moves : List Move}
    (whole : ∀ m ∈ moves, m.breaks = false) :
    Pristine ((new policy baseUrl).after moves) fun socket =>
      (new policy baseUrl).arrivals socket moves := by
  induction moves using List.reverseRecOn with
  | nil => exact ⟨fun _ _ => rfl, nofun, nofun, nofun, nofun, nofun⟩
  | append_singleton moves m ih =>
    have before : ∀ m ∈ moves, m.breaks = false := fun m mem => whole m (List.mem_append_left _ mem)
    have pristine := (ih before).move (m := m) (sound_after policy baseUrl before)
    simpa only [after_append, after_cons, after_nil, arrivals_concat] using pristine

end Keeper

end VoiceTicket
