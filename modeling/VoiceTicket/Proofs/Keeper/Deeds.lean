/-
  What the current run does, step by step.

  1. **Data** — a `Deed` is what one step of the current run amounts to: an attempt is made, an
     attempt has ended, an event is taken.  `Keeper.records` is the history of a list of moves: the
     deeds of whatever run was the current one, with their times.

  2. **Specification** — `Goes k now run deed k'`: the turns that are left to the current run when
     nothing is made to fail.  `Sound`: what holds then between the bookkeeping and the phase of the
     current run, in whatever order the moves come (`sound_after`).

  3. **Crux** — a move matters to the current run in three ways only (`Happens`): it begins the run,
     it is the run's own turn, or it leaves the bookkeeping and the phase alone.
-/
import Mathlib.Data.List.Induction
import VoiceTicket.Proofs.Keeper.OneSocket

namespace VoiceTicket

/-- Where a list with one entry more is split, that is the last one or it was there before. -/
theorem concat_eq_append_cons {α : Type} {xs ys zs : List α} {x y : α}
    (split : xs ++ [x] = ys ++ y :: zs) :
    (zs = [] ∧ xs = ys ∧ x = y) ∨ ∃ zs', zs = zs' ++ [x] ∧ xs = ys ++ y :: zs' := by
  rcases List.eq_nil_or_concat zs with rfl | ⟨zs', z, rfl⟩
  · obtain ⟨rfl, same⟩ := List.append_inj' split rfl
    exact Or.inl ⟨rfl, rfl, List.head_eq_of_cons_eq same⟩
  · have split : xs ++ [x] = (ys ++ y :: zs') ++ [z] := by simpa using split
    obtain ⟨same, last⟩ := List.append_inj' split rfl
    cases last
    exact Or.inr ⟨zs', List.concat_eq_append, same⟩

/-- What the current run does in a step. -/
inductive Deed where
  /-- It makes an attempt. -/
  | dial
  /-- Its attempt fails at once: the base URL has no channel. -/
  | reject
  /-- Its attempt is refused. -/
  | refusal
  /-- Its attempt ends in a socket. -/
  | opening (socket : Nat)
  /-- It takes an event from its socket. -/
  | taking (socket : Nat) (event : SocketEvent)
deriving DecidableEq, Repr

namespace Deed

/-- An attempt begins, with a URL or without one. -/
def isAttempt : Deed → Bool
  | .dial | .reject => true
  | .refusal | .opening _ | .taking .. => false

/-- An attempt has failed, or its socket has closed. -/
def isFailure : Deed → Bool
  | .reject | .refusal | .taking _ (.closed _) => true
  | .dial | .opening _ | .taking .. => false

/-- A socket has opened. -/
def isOpening : Deed → Bool
  | .opening _ => true
  | .dial | .reject | .refusal | .taking .. => false

end Deed

/-- A deed, with who did it, when, and the time for events that come without one. -/
structure Record where
  run : Nat
  clock : Nat
  now : String
  deed : Deed
deriving DecidableEq, Repr

/-- What is told of some moves, in order. -/
abbrev History := List Record

/-- What the bookkeeping says while the current run is in a phase. -/
def Phase.Booked (l : Link) : Phase → Prop
  | .reading _ => l.pending = none
  | .sleeping _ => l.connected = false
  | .draining .. => False
  | .waiting _ | .attempting | .connecting _ | .ended => l.connected = false ∧ l.pending = none

/-- A move is a step of a run or none. -/
theorem Move.go_or_still (m : Move) :
    (∃ run choice now, m = .go run choice now) ∨ ∀ run choice now, m ≠ .go run choice now := by
  cases m with
  | go run choice now => exact Or.inl ⟨run, choice, now, rfl⟩
  | act | handOver | pass => exact Or.inr nofun

namespace Keeper

variable {k k' : Keeper} {now : String} {run : Nat} {r : Run}

/-! ## Waiting -/

/-- Whether an attempt has no end yet. -/
def unanswered (k : Keeper) : Option Dial → Bool
  | none => true
  | some (.refused _) => false
  | some (.accepted socket) => (k.sockets[socket]?).all (·.gated)

/-- Whether a run that stands as `r` has to wait. -/
def isHeld (k : Keeper) (r : Run) : Bool :=
  match r.phase with
  | .waiting earlier => !k.hasEnded earlier
  | .attempting => false
  | .connecting dial => !r.cancelled && k.unanswered dial
  | .reading socket => !r.cancelled && (k.readNext? socket).isNone
  | .draining socket until_ => (k.readNext? socket).isNone && k.clock < until_
  | .sleeping until_ => !r.cancelled && k.clock < until_
  | .ended => true

theorem isNone_dialled? (k : Keeper) (run : Nat) (share : Binary64) (dial : Option Dial) :
    (k.dialled? run share dial).isNone = k.unanswered dial := by
  match dial with
  | none => rfl
  | some (.refused _) => rfl
  | some (.accepted socket) =>
    simp only [dialled?, unanswered]
    cases k.sockets[socket]? with
    | none => rfl
    | some s => cases gated : s.gated <;> simp [gated]

/-- Whether a run has to wait is no matter of choice. -/
theorem isNone_advance (k : Keeper) (now : String) (run : Nat) (choice : Choice) :
    (k.advance now run choice).isNone = (k.runs[run]?).all k.isHeld := by
  unfold advance
  split
  case h_1 none => rw [none]; rfl
  case h_2 r found =>
    rw [found, Option.isNone_map, Option.all_some]
    unfold effect? isHeld
    cases r.phase with
    | waiting earlier => cases h : k.hasEnded earlier <;> simp [h]
    | attempting | ended => rfl
    | connecting dial =>
      simp only [← isNone_dialled? k run choice.share]
      cases k.dialled? run choice.share dial <;> cases r.cancelled <;> cases choice.event <;> rfl
    | reading socket =>
      simp only [read?]
      cases k.readNext? socket <;> cases r.cancelled <;> cases choice.event <;> rfl
    | draining socket until_ =>
      simp only [drain?]
      split
      · next read => simp [read]
      · next read => simp [read]
      · next none => by_cases due : until_ ≤ k.clock <;> simp [none, due]; omega
    | sleeping until_ =>
      simp only [wake?]
      by_cases due : until_ ≤ k.clock <;> cases r.cancelled <;> cases choice.event <;>
        cases k.isCurrent run <;> simp [due] <;> omega

/-- Every run has to wait. -/
def Waits (k : Keeper) : Prop := ∀ run choice now, k.advance now run choice = none

theorem waits_iff : k.Waits ↔ ∀ r ∈ k.runs, k.isHeld r = true := by
  constructor
  · intro waits r mem
    obtain ⟨run, found⟩ := List.getElem?_of_mem mem
    have held := isNone_advance k "" run .plain
    rw [waits run .plain "", found] at held
    exact held.symm
  · intro held run choice now
    rw [← Option.isNone_iff_eq_none, isNone_advance]
    cases found : k.runs[run]? with
    | none => rfl
    | some r => exact held r (List.mem_of_getElem? found)

instance (k : Keeper) : Decidable k.Waits := decidable_of_iff _ waits_iff.symm

/-! ## Deeds -/

/-- What a run does next as the current one, if that is anything that is told of. -/
def deed? (k : Keeper) (run : Nat) : Option Deed :=
  match k.phase? run with
  | some .attempting =>
    match Channel.url k.baseUrl with
    | .ok _ => some .dial
    | .error _ => some .reject
  | some (.connecting (some (.refused _))) => some .refusal
  | some (.connecting (some (.accepted socket))) =>
    if (k.sockets[socket]?).any (!·.gated) then some (.opening socket) else none
  | some (.reading socket) => (k.readNext? socket).map fun (event, _) => .taking socket event
  | _ => none

/-- What is told of a move. -/
def record? (k : Keeper) : Move → Option Record
  | .go run _ now =>
    if k.isCurrent run then (k.deed? run).map (⟨run, k.clock, now, ·⟩) else none
  | _ => none

/-- Nothing is told of what is no step of a run. -/
theorem record?_of_still {m : Move} (still : ∀ run choice now, m ≠ .go run choice now) :
    k.record? m = none := by
  cases m with
  | go run choice now => exact absurd rfl (still run choice now)
  | act | handOver | pass => rfl

/-- What is told of some moves. -/
def records (k : Keeper) : List Move → History
  | [] => []
  | m :: moves => (k.record? m).toList ++ (k.move m).records moves

theorem records_append (k : Keeper) (moves moves' : List Move) :
    k.records (moves ++ moves') = k.records moves ++ (k.after moves).records moves' := by
  induction moves generalizing k with
  | nil => rfl
  | cons m moves ih => simp [records, ih]

theorem records_concat (k : Keeper) (moves : List Move) (m : Move) :
    k.records (moves ++ [m]) = k.records moves ++ ((k.after moves).record? m).toList := by
  simp [records_append, records]

/-- What the current run does in its turn while nothing is made to fail, and the deed that it is. -/
inductive Goes (k : Keeper) (now : String) (run : Nat) : Option Deed → Keeper → Prop where
  | resumed {earlier : Nat} (phase : k.phase? run = some (.waiting earlier)) :
      Goes k now run none (k.setPhase run .attempting)
  | dialled {url : Url} (phase : k.phase? run = some .attempting)
      (channel : Channel.url k.baseUrl = .ok url) :
      Goes k now run (some .dial)
        ((k.told [.log .info ("Connecting to " ++ url.text)]).dial run url)
  | rejected {fault : Channel.Fault} {k' : Keeper} (phase : k.phase? run = some .attempting)
      (channel : Channel.url k.baseUrl = .error fault)
      (retry : Retry (k.told [.log .error fault.message]) run k') :
      Goes k now run (some .reject) k'
  | refused {fault : ConnectFault} {k' : Keeper}
      (phase : k.phase? run = some (.connecting (some (.refused fault))))
      (retry : Retry (k.down .error ("Connection failed: " ++ fault.message)) run k') :
      Goes k now run (some .refusal) k'
  | registered {socket : Nat} {s : Socket}
      (phase : k.phase? run = some (.connecting (some (.accepted socket))))
      (found : k.sockets[socket]? = some s) (free : s.gated = false) :
      Goes k now run (some (.opening socket)) (k.registered run socket)
  | heard {socket : Nat} {text : String} {k₁ : Keeper}
      (phase : k.phase? run = some (.reading socket))
      (read : k.readNext? socket = some (.text text, k₁)) :
      Goes k now run (some (.taking socket (.text text))) (k₁.heard now text)
  | erred {socket : Nat} {message : String} {k₁ : Keeper}
      (phase : k.phase? run = some (.reading socket))
      (read : k.readNext? socket = some (.error message, k₁)) :
      Goes k now run (some (.taking socket (.error message)))
        (k₁.down .error ("Connection error: " ++ message))
  | closed {socket : Nat} {reason : Option String} {k₁ k' : Keeper}
      (phase : k.phase? run = some (.reading socket))
      (read : k.readNext? socket = some (.closed reason, k₁))
      (retry : Retry (k₁.release.down .warn (closedMessage reason)) run k') :
      Goes k now run (some (.taking socket (.closed reason))) k'
  | woken {until_ : Nat} (phase : k.phase? run = some (.sleeping until_)) (due : until_ ≤ k.clock) :
      Goes k now run none ({ k with link := k.link.retryFired }.setPhase run .attempting)

theorem Goes.deed?_eq {deed : Option Deed} (goes : Goes k now run deed k') :
    k.deed? run = deed := by
  cases goes with
  | resumed phase | woken phase => simp [deed?, phase]
  | dialled phase channel | rejected phase channel => simp [deed?, phase, channel]
  | refused phase => simp [deed?, phase]
  | registered phase found free => simp [deed?, phase, found, free]
  | heard phase read | erred phase read | closed phase read => simp [deed?, phase, read]

/-- A turn of the current run is one of these, unless something fails. -/
theorem Turn.goes (h : k.runs[run]? = some r) (turn : Turn k now run r k')
    (current : k.isCurrent run = true) (attached : r.cancelled = false) (intact : Intact k)
    (dry : ∀ socket until_, r.phase ≠ .draining socket until_) :
    ∃ deed, Goes k now run deed k' := by
  have never {P : Prop} (outdated : r.cancelled = true ∨ k.isCurrent run = false) : P := by
    simp [attached, current] at outdated
  have at_ {p : Phase} (phase : r.phase = p) : k.phase? run = some p := by
    rw [phase?_of_run h, phase]
  cases turn with
  | resumed phase => exact ⟨_, .resumed (at_ phase)⟩
  | unasked _ fails =>
    rw [intact.asked] at fails
    cases fails
  | dialled phase _ channel => exact ⟨_, .dialled (at_ phase) channel⟩
  | rejected phase _ channel retry => exact ⟨_, .rejected (at_ phase) channel retry⟩
  | refused phase _ retry => exact ⟨_, .refused (at_ phase) retry⟩
  | registered phase _ found free => exact ⟨_, .registered (at_ phase) found free⟩
  | late _ outdated | dropped _ outdated => exact never (.inr outdated)
  | heard phase _ read => exact ⟨_, .heard (at_ phase) read⟩
  | erred phase _ read => exact ⟨_, .erred (at_ phase) read⟩
  | closed phase _ read retry => exact ⟨_, .closed (at_ phase) read retry⟩
  | left _ outdated | quit _ outdated => exact never outdated
  | skipped phase | drained phase => exact absurd phase (dry _ _)
  | woken phase due => exact ⟨_, .woken (at_ phase) due⟩
  | failed _ _ fails => exact absurd intact.heeded fails

/-- A run that has to wait has nothing to be told of it. -/
theorem deed?_of_held (h : k.runs[run]? = some r) (held : k.isHeld r = true) :
    k.deed? run = none := by
  rw [deed?, phase?_of_run h]
  unfold isHeld at held
  cases phase : r.phase with
  | attempting => simp [phase] at held
  | connecting dial =>
    simp only [phase, Bool.and_eq_true] at held
    match dial with
    | none => rfl
    | some (.refused _) => cases held.2
    | some (.accepted socket) =>
      have gated : (k.sockets[socket]?).all (·.gated) = true := held.2
      cases found : k.sockets[socket]? with
      | none => simp [found]
      | some s =>
        rw [found] at gated
        simp_all
  | reading socket => simp_all
  | waiting | draining | sleeping | ended => rfl

/-! ## The bookkeeping and the phase -/

theorem phase?_setPhase {p : Phase} (phase : k.phase? run = some p) (p' : Phase) :
    (k.setPhase run p').phase? run = some p' := by
  rw [phase?, Option.map_eq_some_iff] at phase
  obtain ⟨r, found, _⟩ := phase
  simp [phase?, setPhase, found]

/-- What is left of a failed attempt where no report fails. -/
theorem Retry.cases_of_heeded (retry : Retry k run k') (heeded : k.logFails = none) :
    (∃ share delay, k.policy.delay? k.link.failed.attempt share = some delay ∧
      k' = (({ k with link := k.link.failed.retrying delay }.told
        [.log .info (retryMessage delay k.link.failed.attempt)]).setPhase run
          (.sleeping (k.clock + delay.nanos)))) ∨
    (∃ share, k.policy.delay? k.link.failed.attempt share = none ∧
      k' = { k with link := k.link.failed }.setPhase run .ended) := by
  cases retry with
  | armed delayed => exact Or.inl ⟨_, _, delayed, rfl⟩
  | overflow delayed => exact Or.inr ⟨_, delayed, rfl⟩
  | failed _ fails =>
    rw [heeded] at fails
    cases fails

theorem Retry.booked (retry : Retry k run k') (heeded : k.logFails = none) {p : Phase}
    (phase : k.phase? run = some p) (unarmed : k.link.pending = none) :
    ∃ p', k'.phase? run = some p' ∧ p'.Booked k'.link := by
  rcases retry.cases_of_heeded heeded with ⟨share, delay, _, rfl⟩ | ⟨share, _, rfl⟩
  · exact ⟨_, phase?_setPhase (p := p) phase _, rfl⟩
  · exact ⟨_, phase?_setPhase (p := p) phase _, rfl, unarmed⟩

theorem phase?_readNext? {socket : Nat} {e : SocketEvent}
    (read : k.readNext? socket = some (e, k')) (i : Nat) : k'.phase? i = k.phase? i := by
  rw [phase?, phase?, (alike_readNext? read).runs]

theorem phase?_release (k : Keeper) (i : Nat) : k.release.phase? i = k.phase? i := by
  rw [phase?, phase?, (alike_release k).runs]

theorem link_release (k : Keeper) : k.release.link = k.link := by
  rw [release_eq]

/-- Whatever the current run does, the bookkeeping keeps up with its phase. -/
theorem Goes.booked {deed : Option Deed} (goes : Goes k now run deed k') (intact : Intact k)
    (booked : ∀ p, k.phase? run = some p → p.Booked k.link) :
    ∃ p, k'.phase? run = some p ∧ p.Booked k'.link := by
  cases goes with
  | resumed phase =>
    have before := booked _ phase
    exact ⟨_, phase?_setPhase phase .attempting, before⟩
  | dialled phase =>
    have before := booked _ phase
    exact ⟨_, phase?_setPhase (p := .attempting) phase _, before⟩
  | rejected phase _ retry =>
    have before := booked _ phase
    exact retry.booked (heeded_told intact.heeded) (p := .attempting) phase before.2
  | refused phase retry =>
    have before := booked _ phase
    exact retry.booked (heeded_down intact.heeded) (p := .connecting _) phase before.2
  | registered phase => exact ⟨_, phase?_setPhase (p := .connecting _) phase _, rfl⟩
  | @heard socket text k₁ phase read =>
    refine ⟨_, (phase?_readNext? read run).trans phase, ?_⟩
    show k₁.link.pending = none
    rw [link_readNext? read]
    exact booked _ phase
  | @erred socket message k₁ phase read =>
    refine ⟨_, (phase?_readNext? read run).trans phase, ?_⟩
    show k₁.link.pending = none
    rw [link_readNext? read]
    exact booked _ phase
  | @closed socket reason k₁ _ phase read retry =>
    have after := (intact.readNext? read).release
    refine retry.booked (heeded_down after.heeded) (p := .reading socket) ?_ ?_
    · exact (phase?_release k₁ run).trans ((phase?_readNext? read run).trans phase)
    · show k₁.release.link.pending = none
      rw [link_release, link_readNext? read]
      exact booked _ phase
  | woken phase =>
    exact ⟨_, phase?_setPhase (p := .sleeping _) phase _, booked _ phase, rfl⟩

/-- What holds as long as nothing is made to fail, in whatever order things happen. -/
structure Sound (k : Keeper) : Prop where
  reachable : k.Reachable
  intact : Intact k
  attached : ∀ run r, k.isCurrent run = true → k.runs[run]? = some r → r.cancelled = false
  booked : ∀ run p, k.isCurrent run = true → k.phase? run = some p → p.Booked k.link

theorem sound_new (policy : Policy) (baseUrl : String) : Sound (new policy baseUrl) :=
  ⟨reachable_new policy baseUrl, ⟨rfl, rfl⟩, nofun, nofun⟩

theorem Sound.exists_run (sound : Sound k) (current : k.isCurrent run = true) :
    ∃ r, k.runs[run]? = some r := by
  have numbered := sound.reachable.numbered
  simp only [isCurrent, Link.isCurrent, Bool.and_eq_true, beq_iff_eq] at current
  exact ⟨k.runs[run], List.getElem?_eq_getElem (by omega)⟩

/-- The turn of the current run. -/
theorem Sound.goes (sound : Sound k) (current : k.isCurrent run = true)
    (h : k.runs[run]? = some r) (turn : Turn k now run r k') : ∃ deed, Goes k now run deed k' := by
  have booked := sound.booked run r.phase current (phase?_of_run h)
  refine turn.goes h current (sound.attached run r current h) sound.intact ?_
  intro socket until_ draining
  rw [draining] at booked
  exact booked

theorem Shift.isCurrent_eq {p : Phase} (shift : Shift k run r p k') (i : Nat) :
    k'.isCurrent i = k.isCurrent i := by
  rw [isCurrent, isCurrent, Link.isCurrent, Link.isCurrent, shift.wanted, shift.number]

/-- Who is the current run once one has begun. -/
theorem isCurrent_begun (numbered : k.link.run = k.runs.length) (i : Nat) :
    k.begun.isCurrent i = (i == k.runs.length) := by
  show (true && k.link.run + 1 == i + 1) = _
  rw [Bool.true_and, numbered, Bool.eq_iff_iff, beq_iff_eq, beq_iff_eq]
  omega

theorem booked_first (previous : Option Nat) (number : Nat) :
    (Phase.first previous).Booked ⟨true, 0, false, none, 0, number⟩ := by
  cases previous <;> exact ⟨rfl, rfl⟩

theorem Sound.turn (sound : Sound k) (h : k.runs[run]? = some r) (turn : Turn k now run r k')
    (reachable : k'.Reachable) : Sound k' := by
  obtain ⟨p, shift⟩ := turn.shift h
  refine ⟨reachable, turn.intact sound.intact, ?_, ?_⟩
  · intro i r' current found
    rw [shift.isCurrent_eq] at current
    rw [shift.runs, List.getElem?_modify, Option.map_eq_map, Option.map_eq_some_iff] at found
    obtain ⟨r₀, found, rfl⟩ := found
    have attached := sound.attached i r₀ current found
    split <;> exact attached
  · intro i q current phase
    rw [shift.isCurrent_eq] at current
    cases own : k.isCurrent run with
    | true =>
      cases eq_of_isCurrent current own
      obtain ⟨deed, goes⟩ := sound.goes own h turn
      obtain ⟨q', phase', booked⟩ := goes.booked sound.intact fun p => sound.booked _ p own
      rw [phase] at phase'
      cases phase'
      exact booked
    | false =>
      -- A run that is over keeps the books as they are.
      rw [(turn.silent own).link]
      refine sound.booked i q current ?_
      rw [shift.phase?_eq h, if_neg] at phase
      · exact phase
      · rintro rfl
        rw [own] at current
        cases current

theorem Sound.move (sound : Sound k) {m : Move} (whole : m.breaks = false) : Sound (k.move m) := by
  have reachable : (k.move m).Reachable := sound.reachable.after [m]
  have moved := moved k m
  generalize k.move m = k' at *
  cases moved with
  | ignored | waits => exact sound
  | begun =>
    have numbered := sound.reachable.numbered
    refine ⟨reachable, ⟨sound.intact.asked, sound.intact.heeded⟩, ?_, ?_⟩
    · intro i r current found
      rw [isCurrent_begun numbered, beq_iff_eq] at current
      rcases run_begun found with ⟨lt, _⟩ | ⟨_, rfl⟩
      · omega
      · rfl
    · intro i p current phase
      rw [isCurrent_begun numbered, beq_iff_eq] at current
      rw [phase?_begun, if_pos current] at phase
      cases phase
      exact booked_first _ _
  | stopped =>
    have outdated (i : Nat) : k.stopped.isCurrent i = false :=
      isCurrent_of_unwanted (wanted_stop k.link) i
    refine ⟨reachable, ⟨sound.intact.asked, sound.intact.heeded⟩, ?_, ?_⟩
    all_goals
      intro i _ current
      rw [outdated] at current
      cases current
  | handedOver =>
    exact ⟨reachable, ⟨sound.intact.asked, sound.intact.heeded⟩, sound.attached, sound.booked⟩
  | turns h turn => exact sound.turn h turn reachable
  | aside aside =>
    obtain ⟨asked, heeded⟩ := aside.intact whole
    have same (i : Nat) : k'.isCurrent i = k.isCurrent i := by
      rw [isCurrent, isCurrent, aside.link]
    refine ⟨reachable, ⟨asked.trans sound.intact.asked, heeded.trans sound.intact.heeded⟩, ?_, ?_⟩
    · intro i r current found
      exact sound.attached i r (same i ▸ current) (aside.runs ▸ found)
    · intro i p current phase
      rw [aside.link]
      refine sound.booked i p (same i ▸ current) ?_
      rw [phase?, ← aside.runs]
      exact phase

theorem Sound.after (sound : Sound k) {moves : List Move} (whole : ∀ m ∈ moves, m.breaks = false) :
    Sound (k.after moves) := by
  induction moves generalizing k with
  | nil => exact sound
  | cons m moves ih =>
    have first := sound.move (whole m List.mem_cons_self)
    exact ih first fun m' mem => whole m' (List.mem_cons_of_mem m mem)

theorem sound_after (policy : Policy) (baseUrl : String) {moves : List Move}
    (whole : ∀ m ∈ moves, m.breaks = false) : Sound ((new policy baseUrl).after moves) :=
  (sound_new policy baseUrl).after whole

/-! ## What is reported -/

/-- What was reported has reached the store, and nothing else has. -/
def Tells (k k' : Keeper) : Prop :=
  ∃ said, k'.signals = k.signals ++ said ∧ k'.store = said.foldl Store.receive k.store

theorem Tells.of_same (signals : k'.signals = k.signals) (store : k'.store = k.store) :
    Tells k k' :=
  ⟨[], by rw [signals, List.append_nil], store⟩

theorem Tells.trans {k₁ k₂ k₃ : Keeper} (h : Tells k₁ k₂) (h' : Tells k₂ k₃) : Tells k₁ k₃ := by
  obtain ⟨said, signals, store⟩ := h
  obtain ⟨said', signals', store'⟩ := h'
  refine ⟨said ++ said', ?_, ?_⟩
  · rw [signals', signals, List.append_assoc]
  · rw [store', store, List.foldl_append]

theorem tells_release (k : Keeper) : Tells k k.release := by
  rw [release_eq]
  exact .of_same rfl rfl

theorem tells_readNext? {socket : Nat} {e : SocketEvent} (h : k.readNext? socket = some (e, k')) :
    Tells k k' := by
  obtain ⟨_, _, _, _, rfl⟩ := readNext?_eq h
  exact .of_same rfl rfl

theorem Retry.tells (retry : Retry k run k') (heeded : k.logFails = none) : Tells k k' := by
  rcases retry.cases_of_heeded heeded with ⟨share, delay, _, rfl⟩ | ⟨share, _, rfl⟩
  · exact ⟨_, rfl, rfl⟩
  · exact .of_same rfl rfl

/-- **What a run reports reaches the store**, as long as no report is made to fail. -/
theorem Turn.tells (turn : Turn k now run r k') (intact : Intact k) : Tells k k' := by
  cases turn with
  | resumed | unasked | quit | woken | late => exact .of_same rfl rfl
  | dialled | registered => exact ⟨_, rfl, rfl⟩
  | rejected _ _ _ retry => exact .trans ⟨_, rfl, rfl⟩ (retry.tells (heeded_told intact.heeded))
  | refused _ _ retry => exact .trans ⟨_, rfl, rfl⟩ (retry.tells (heeded_down intact.heeded))
  | heard _ _ read | erred _ _ read => exact (tells_readNext? read).trans ⟨_, rfl, rfl⟩
  | @closed _ _ k₁ _ _ _ read retry =>
    have after := (intact.readNext? read).release
    have down := retry.tells (heeded_down after.heeded)
    exact (((tells_readNext? read).trans (tells_release k₁)).trans ⟨_, rfl, rfl⟩).trans down
  | @dropped _ _ k₁ _ _ read =>
    exact ((tells_readNext? read).trans (tells_release k₁)).trans (.of_same rfl rfl)
  | @left socket k₁ _ _ read =>
    have released : Tells k₁ (k₁.leave run socket) := (tells_release k₁).trans (.of_same rfl rfl)
    rcases read with rfl | ⟨e, read⟩
    · exact released
    · exact (tells_readNext? read).trans released
  | skipped _ read => exact tells_readNext? read
  | drained _ read =>
    rcases read with ⟨rfl, _⟩ | ⟨reason, read⟩
    · exact .of_same rfl rfl
    · exact (tells_readNext? read).trans (.of_same rfl rfl)
  | failed _ _ fails => exact absurd intact.heeded fails

/-! ## What a move means to the current run -/

/-- The clock is set by time that passes, and by nothing else. -/
theorem clock_move (k : Keeper) (m : Move) :
    (k.move m).clock = match m with
      | .pass nanos => k.clock + nanos
      | _ => k.clock := by
  have released (k : Keeper) : k.release.clock = k.clock := (alike_release k).clock
  cases m with
  | handOver | pass => rfl
  | go run choice now =>
    rcases move_go k run choice now with same | ⟨r, h, turn⟩
    · rw [same]
    · obtain ⟨p, shift⟩ := turn.shift h
      exact shift.clock
  | act action instant =>
    cases action with
    | start =>
      show k.start.2.clock = k.clock
      cases wanted : k.link.wanted with
      | true => rw [start_of_wanted wanted]
      | false => rw [start_of_unwanted wanted]; rfl
    | stop =>
      show k.stop.2.clock = k.clock
      rw [stop_eq]
      rfl
    | shutdown | wait => cases instant
    | _ => rfl

theorem clock_le_move (k : Keeper) (m : Move) : k.clock ≤ (k.move m).clock := by
  rw [clock_move]
  split <;> omega

theorem policy_move (k : Keeper) (m : Move) : (k.move m).policy = k.policy := by
  have moved := moved k m
  generalize k.move m = k' at *
  cases moved with
  | ignored | waits | begun | stopped | handedOver => rfl
  | turns h turn =>
    obtain ⟨p, shift⟩ := turn.shift h
    exact shift.policy
  | aside aside => exact aside.policy

theorem policy_after (k : Keeper) (moves : List Move) : (k.after moves).policy = k.policy := by
  induction moves generalizing k with
  | nil => rfl
  | cons m moves ih => exact (ih (k.move m)).trans (policy_move k m)

/-- What the move `m` means to a run that is the current one after it. -/
inductive Happens (k : Keeper) (run : Nat) (m : Move) (k' : Keeper) : Prop where
  /-- It begins the run. -/
  | begins (unwanted : k.link.wanted = false) (isStart : m = .start) (next : run = k.runs.length)
      (same : k' = k.begun)
  /-- It is a turn of the run. -/
  | goes {choice : Choice} {now : String} {deed : Option Deed} (isGo : m = .go run choice now)
      (current : k.isCurrent run = true)
      (told : k.record? m = deed.map (⟨run, k.clock, now, ·⟩)) (goes : Goes k now run deed k')
  /-- It leaves the run alone. -/
  | rests (current : k.isCurrent run = true) (untold : k.record? m = none)
      (link : k'.link = k.link) (phase : k'.phase? run = k.phase? run)

theorem record?_of_over {choice : Choice} (outdated : k.isCurrent run = false) :
    k.record? (.go run choice now) = none := by
  simp [record?, outdated]

/-- What comes of a run that is asked to go on. -/
inductive Step (k : Keeper) (run : Nat) (choice : Choice) (now : String) (k' : Keeper) : Prop where
  | waits (untold : k.record? (.go run choice now) = none) (same : k' = k)
  | goes {r : Run} {deed : Option Deed} (current : k.isCurrent run = true)
      (told : k.record? (.go run choice now) = deed.map (⟨run, k.clock, now, ·⟩))
      (h : k.runs[run]? = some r) (turn : Turn k now run r k') (goes : Goes k now run deed k')
  | other {r : Run} (outdated : k.isCurrent run = false)
      (untold : k.record? (.go run choice now) = none) (h : k.runs[run]? = some r)
      (turn : Turn k now run r k')

theorem Sound.step (sound : Sound k) (run : Nat) (choice : Choice) (now : String) :
    Step k run choice now (k.move (.go run choice now)) := by
  show Step k run choice now ((k.advance now run choice).getD k)
  cases step : k.advance now run choice with
  | none =>
    refine .waits ?_ rfl
    cases current : k.isCurrent run with
    | false => exact record?_of_over current
    | true =>
      obtain ⟨r, found⟩ := sound.exists_run current
      have held := isNone_advance k now run choice
      rw [step, found] at held
      simp [record?, current, deed?_of_held found held.symm]
  | some k' =>
    cases h : k.runs[run]? with
    | none => simp [advance, h] at step
    | some r =>
      have turn := turn_of_advance h step
      cases current : k.isCurrent run with
      | false => exact .other current (record?_of_over current) h turn
      | true =>
        obtain ⟨deed, goes⟩ := sound.goes current h turn
        refine .goes current ?_ h turn goes
        simp [record?, current, goes.deed?_eq]

/-- A step of a run changes nothing about who is the current one. -/
theorem isCurrent_go (k : Keeper) (other : Nat) (choice : Choice) (now : String) (i : Nat) :
    (k.move (.go other choice now)).isCurrent i = k.isCurrent i := by
  rcases move_go k other choice now with same | ⟨r, h, turn⟩
  · rw [same]
  · obtain ⟨p, shift⟩ := turn.shift h
    exact shift.isCurrent_eq i

/-- **Every move is one of these** to the run that is the current one after it. -/
theorem Sound.happens (sound : Sound k) (m : Move) (current : (k.move m).isCurrent run = true) :
    Happens k run m (k.move m) := by
  rcases m.go_or_still with ⟨other, choice, now, rfl⟩ | still
  · rw [isCurrent_go] at current
    have step := sound.step other choice now
    generalize k.move (.go other choice now) = k' at *
    cases step with
    | waits untold same =>
      subst same
      exact .rests current untold rfl rfl
    | goes own told _ _ goes =>
      cases eq_of_isCurrent current own
      exact .goes rfl own told goes
    | other own untold h turn =>
      obtain ⟨p, shift⟩ := turn.shift h
      refine .rests current untold (turn.silent own).link ?_
      rw [shift.phase?_eq h, if_neg]
      rintro rfl
      rw [own] at current
      cases current
  · have untold := record?_of_still (k := k) still
    have step := moved k m
    generalize k.move m = k' at *
    cases step with
    | ignored | handedOver => exact .rests current untold rfl rfl
    | begun unwanted =>
      rw [isCurrent_begun sound.reachable.numbered, beq_iff_eq] at current
      exact .begins unwanted rfl current rfl
    | stopped =>
      rw [isCurrent_of_unwanted (wanted_stop k.link)] at current
      cases current
    | waits | turns => exact absurd rfl (still _ _ _)
    | aside aside =>
      have before : k.isCurrent run = true := by
        rw [isCurrent, ← aside.link]
        exact current
      exact .rests before untold aside.link (by rw [phase?, phase?, aside.runs])

end Keeper

end VoiceTicket
