/-
  Silence after a stop.

  1. **Data** — `Halts k k'`: in `k` a stop or a shutdown is called, and it returns in `k'`.
     `Unstarted k moves`: no start among the moves begins a run.

  2. **Specification** — until the next start nothing is seen from outside, whatever is still
     unread on the old socket and whatever is due; and once a run has been stopped, nothing that
     the peer of one of its sockets sends, or has sent, is ever taken up by a run that reports.

  3. **Crux** — two reasons, one for each half.  While no connection is wanted no run is the
     current one, and a run that is not the current one keeps silent (`Turn.silent`).  After the
     next start one is wanted again, and only the number of the run tells the old from the new
     (`Retired`); but the old socket stays with the old run (`Owns.after`).
-/
import VoiceTicket.Proofs.Keeper.Holding
import VoiceTicket.Proofs.Keeper.Idling

namespace VoiceTicket.Keeper

variable {k k' : Keeper}

/-- A stop or a shutdown has been called, and returns. -/
inductive Halts (k : Keeper) : Keeper → Prop where
  | stop : Halts k k.stop.2
  /-- Between the halves of a shutdown and while it waits anything happens but the next call. -/
  | shutdown (between later : List Move) (uncalled : ∀ m ∈ between ++ later, m.isCall = false) :
      Halts k (((k.stop.2.after between).move .handOver).after later)

/-- None of the moves begins a run. -/
def Unstarted (k : Keeper) : List Move → Prop
  | [] => True
  | m :: moves => (m = .start → k.start.1 = false) ∧ (k.move m).Unstarted moves

/-- No connection is wanted, there is none, and none is to come. -/
structure Rests (k : Keeper) : Prop where
  unwanted : k.link.wanted = false
  apart : k.link.connected = false
  unarmed : k.link.pending = none

/-! ## The bookkeeping at rest -/

theorem isCurrent_of_unwanted (unwanted : k.link.wanted = false) (run : Nat) :
    k.isCurrent run = false := by
  simp [isCurrent, Link.isCurrent, unwanted]

theorem stop_of_unwanted {l : Link} (unwanted : l.wanted = false) : l.stop.2 = l := by
  simp [Link.stop, unwanted]

/-- Where no connection is wanted nothing is seen, unless one is begun. -/
theorem Moved.silent {m : Move} (moved : Moved k m k') (unwanted : k.link.wanted = false)
    (unstarted : m = .start → k.start.1 = false) : Silent k k' := by
  cases moved with
  | ignored | waits => exact .refl k
  | begun =>
    have begun := unstarted rfl
    rw [start_of_unwanted unwanted] at begun
    cases begun
  | stopped => exact ⟨stop_of_unwanted unwanted, rfl, rfl, rfl, id⟩
  | handedOver => exact ⟨rfl, rfl, rfl, rfl, id⟩
  | @turns run choice now r k' h turn => exact turn.silent (isCurrent_of_unwanted unwanted run)
  | aside aside =>
    exact ⟨aside.link, aside.signals, aside.dialled, aside.unknownCodes, aside.logFails⟩

theorem silent_after (unwanted : k.link.wanted = false) {moves : List Move}
    (unstarted : k.Unstarted moves) : Silent k (k.after moves) := by
  induction moves generalizing k with
  | nil => exact .refl k
  | cons m moves ih =>
    have first := (moved k m).silent unwanted unstarted.1
    have still : (k.move m).link.wanted = false := by rw [first.link, unwanted]
    exact first.trans (ih still unstarted.2)

theorem unstarted_of_not_mem {moves : List Move} (never : Move.start ∉ moves) :
    k.Unstarted moves := by
  induction moves generalizing k with
  | nil => trivial
  | cons m moves ih =>
    rw [List.mem_cons, not_or] at never
    exact ⟨fun isStart => absurd isStart.symm never.1, ih never.2⟩

theorem Rests.of_link (rests : k.Rests) (link : k'.link = k.link) : k'.Rests :=
  ⟨link ▸ rests.unwanted, link ▸ rests.apart, link ▸ rests.unarmed⟩

theorem rests_stopped (rests : k.link.wanted = false → k.Rests) : k.stopped.Rests := by
  cases wanted : k.link.wanted with
  | false => exact (rests wanted).of_link (stop_of_unwanted wanted)
  | true =>
    have link : k.stopped.link =
        { k.link with wanted := false, connected := false, pending := none } := by
      simp [stopped, Link.stop, wanted]
    exact ⟨by rw [link], by rw [link], by rw [link]⟩

/-- Whatever is not wanted is not there either. -/
theorem Reachable.rests (reachable : k.Reachable) (unwanted : k.link.wanted = false) : k.Rests := by
  refine reachable.induct (P := fun k => k.link.wanted = false → k.Rests) ?_ ?_ unwanted
  · exact fun _ _ _ => ⟨rfl, rfl, rfl⟩
  intro k m k' rests moved unwanted
  cases moved with
  | ignored | waits => exact rests unwanted
  | begun => cases unwanted
  | stopped => exact rests_stopped rests
  | handedOver => exact (rests unwanted).of_link rfl
  | @turns run choice now r k' h turn =>
    obtain ⟨p, shift⟩ := turn.shift h
    have before : k.link.wanted = false := shift.wanted ▸ unwanted
    exact (rests before).of_link (turn.silent (isCurrent_of_unwanted before run)).link
  | aside aside =>
    have before : k.link.wanted = false := aside.link ▸ unwanted
    exact (rests before).of_link aside.link

/-! ## Runs that have been stopped -/

/-- The run was begun, and is the current one no more. -/
structure Retired (k : Keeper) (run : Nat) : Prop where
  begun : run < k.link.run
  outdated : k.isCurrent run = false

/-- A run that has been stopped never is the current one again. -/
theorem Retired.moved {run : Nat} {m : Move} (retired : Retired k run) (moved : Moved k m k') :
    Retired k' run := by
  refine ⟨Nat.lt_of_lt_of_le retired.begun moved.number_le, ?_⟩
  have outdated := retired.outdated
  cases moved with
  | ignored | waits | handedOver => exact outdated
  | begun =>
    -- The next run has the next number.
    have begun := retired.begun
    show (true && k.link.run + 1 == run + 1) = false
    simp
    omega
  | stopped => exact isCurrent_of_unwanted (wanted_stop k.link) run
  | turns h turn =>
    obtain ⟨p, shift⟩ := turn.shift h
    rw [isCurrent, Link.isCurrent, shift.wanted, shift.number]
    exact outdated
  | aside aside =>
    rw [isCurrent, aside.link]
    exact outdated

theorem Retired.after {run : Nat} (retired : Retired k run) (moves : List Move) :
    Retired (k.after moves) run := by
  induction moves generalizing k with
  | nil => exact retired
  | cons m moves ih => exact ih (retired.moved (Keeper.moved k m))

/-- What the peer of a socket has sent is taken up silently, or not at all, once the run whose
socket it is has been stopped. -/
theorem Retired.silent {run socket : Nat} (retired : Retired k run) (owns : Owns k run socket)
    (reader : Nat) (choice : Choice) (now : String) :
    Silent k (k.move (.go reader choice now)) ∨
      (¬ k.Holds reader socket ∧
        (k.move (.go reader choice now)).unread socket = k.unread socket) := by
  rcases move_go k reader choice now with same | ⟨r, h, turn⟩
  · rw [same]
    exact Or.inl (.refl k)
  · cases current : k.isCurrent reader with
    | false => exact Or.inl (turn.silent current)
    | true =>
      have other : ¬ k.Holds reader socket := by
        intro held
        rw [owns.alone reader held, retired.outdated] at current
        cases current
      refine Or.inr ⟨other, turn.unread ?_⟩
      exact fun has => other ⟨r, h, has⟩

/-! ## After a stop -/

/-- A call that halts is a stop and some moves that start nothing. -/
theorem Halts.exists_moves (halts : Halts k k') :
    ∃ moves, k' = k.stop.2.after moves ∧ k.stop.2.Unstarted moves := by
  cases halts with
  | stop => exact ⟨[], rfl, trivial⟩
  | shutdown between later uncalled =>
    refine ⟨between ++ .handOver :: later, by simp, unstarted_of_not_mem ?_⟩
    intro mem
    rcases List.mem_append.1 mem with mem | mem
    · cases uncalled .start (List.mem_append_left later mem)
    · rcases List.mem_cons.1 mem with same | mem
      · cases same
      · cases uncalled .start (List.mem_append_right between mem)

/-- A run that was there before a call that halts is retired after it. -/
theorem Halts.retired (halts : Halts k k') {run : Nat} (begun : run < k.link.run) :
    Retired k' run := by
  obtain ⟨moves, rfl, _⟩ := halts.exists_moves
  have stopped : Retired k.stop.2 run := by
    rw [stop_eq]
    refine ⟨?_, isCurrent_of_unwanted (wanted_stop k.link) run⟩
    show run < k.link.stop.2.run
    rw [number_stop]
    exact begun
  exact stopped.after moves

/-- Until a run is begun, none is wanted after a call that halts. -/
theorem Halts.unwanted (halts : Halts k k') : k'.link.wanted = false := by
  obtain ⟨moves, rfl, unstarted⟩ := halts.exists_moves
  have stopped : k.stop.2.link.wanted = false := by
    rw [stop_eq]
    exact wanted_stop k.link
  rw [(silent_after stopped unstarted).link, stopped]

/-- **Nothing is seen of a connection that was stopped.**  Once a stop or a shutdown returns, and
until a start begins the next run, no connection is wanted, there or to come, and no move is seen
from outside; and whatever starts come later, what the peer of a socket has sent is taken up by no
run that reports, where the socket was that of a run before the stop. -/
theorem silent_of_halts (policy : Policy) (baseUrl : String) (early later : List Move) {k : Keeper}
    (halts : Halts ((new policy baseUrl).after (early ++ later)) k) :
    (∀ moves, k.Unstarted moves →
      (k.after moves).Rests ∧ Silent k (k.after moves) ∧
        ∀ m, (m = .start → (k.after moves).start.1 = false) →
          Silent (k.after moves) ((k.after moves).move m)) ∧
    (∀ run socket, ((new policy baseUrl).after early).Holds run socket →
      ∀ moves reader choice now,
        Silent (k.after moves) ((k.after moves).move (.go reader choice now)) ∨
          (¬ (k.after moves).Holds reader socket ∧
            ((k.after moves).move (.go reader choice now)).unread socket
              = (k.after moves).unread socket)) := by
  have first : ((new policy baseUrl).after early).Reachable := ⟨policy, baseUrl, early, rfl⟩
  rw [after_append] at halts
  obtain ⟨idle, same, _⟩ := halts.exists_moves
  have reachable : k.Reachable := by
    rw [same]
    exact (first.after later).after (.stop :: idle)
  have unwanted := halts.unwanted
  constructor
  · intro moves unstarted
    have silent := silent_after unwanted unstarted
    have still : (k.after moves).link.wanted = false := by rw [silent.link, unwanted]
    refine ⟨(reachable.rests unwanted).of_link silent.link, silent, ?_⟩
    exact fun m begins => (moved _ m).silent still begins
  · intro run socket held moves reader choice now
    -- The socket stays with its run through the stop and through all that follows.
    have owns : Owns (k.after moves) run socket := by
      have owned := first.dealt.owned run socket held
      rw [same]
      exact ((owned.after later).after (.stop :: idle)).after moves
    have retired : Retired (k.after moves) run := by
      refine (halts.retired ?_).after moves
      obtain ⟨r, h, _⟩ := held
      have begun : run < ((new policy baseUrl).after early).link.run := by
        rw [first.numbered]
        exact (List.getElem?_eq_some_iff.1 h).1
      exact Nat.lt_of_lt_of_le begun (number_le_after _ later)
    exact retired.silent owns reader choice now

/-- A connection is stopped while a frame is unread, and started again: the frame stays unread. -/
theorem silent_of_halts_restart :
    let early : List Move :=
      [.act (.accept false true) rfl, .start, .go 0 .plain "", .go 0 .plain ""]
    let later : List Move := [.act (.send 0 (.text "late")) rfl]
    let k := ((new .standard "http://a").after (early ++ later)).stop.2
    Halts ((new .standard "http://a").after (early ++ later)) k ∧
      ((new .standard "http://a").after early).Holds 0 0 ∧
      (k.after [.start]).unread 0 = [.text "late"] ∧
      Silent k (k.after [.pass 1, .go 0 .plain ""]) ∧
      (Silent (k.after [.start]) ((k.after [.start]).move (.go 0 .plain "")) ∨
        (¬ (k.after [.start]).Holds 0 0 ∧
          ((k.after [.start]).move (.go 0 .plain "")).unread 0 = (k.after [.start]).unread 0)) := by
  intro early later k
  have holds : ((new .standard "http://a").after early).Holds 0 0 :=
    ⟨⟨false, .reading 0⟩, by decide +kernel, rfl⟩
  obtain ⟨rests, stays⟩ := silent_of_halts .standard "http://a" early later .stop
  refine ⟨.stop, holds, by decide +kernel, ?_, stays 0 0 holds [.start] 0 .plain ""⟩
  exact (rests [.pass 1, .go 0 .plain ""] ⟨nofun, nofun, trivial⟩).2.1

end VoiceTicket.Keeper
