/-
  The keeper is never wedged.

  1. **Data** — any reachable keeper: the base URL and the log may have failed at any point and any
     number of times, so runs may have died in the middle of a step, with the bookkeeping as it was.

  2. **Specification** — `start_recovers`: a stop leaves nothing wanted, there or to come; a start
     after it begins afresh (`StartsAfresh`), and its run asks for the base URL once the runs before
     it are over, which they are when the grace period of the stop has passed (`Recovers`).

  3. **The crux** — no half-done step can spoil a start, since that asks only whether a connection
     is wanted; and a run that has died in its step counts as ended for whoever waits for it, so a
     chain of dead runs holds nobody up (`Reachable.ended_of_stop`).
-/
import VoiceTicket.Proofs.Keeper.Asking

namespace VoiceTicket.Keeper

variable {k : Keeper}

theorem startOn_of_unwanted (unwanted : k.link.wanted = false) :
    k.startOn true = (.ok true, k.begun) := by
  rw [startOn, if_pos rfl, start_of_unwanted unwanted]

theorem Reachable.rests_stop (reachable : k.Reachable) : k.stop.2.Rests := by
  rw [stop_eq]
  exact rests_stopped reachable.rests

/-- A run that begins has its first asking before it. -/
theorem fresh_begun (k : Keeper) :
    k.begun.phase? k.runs.length = some (.first k.previous) ∧
      (Phase.first k.previous).isFresh = true := by
  rw [phase?_begun, if_pos rfl]
  cases k.previous <;> exact ⟨rfl, rfl⟩

/-- A start in this keeper begins afresh, whatever comes after it. -/
structure StartsAfresh (k : Keeper) : Prop where
  /-- It begins a run and says so. -/
  answer : k.startOn true = (.ok true, k.move .start)
  /-- Nothing is booked of the run yet. -/
  fresh : (k.move .start).link = ⟨true, 0, false, none, 0, k.link.run + 1⟩
  current : (k.move .start).isCurrent k.runs.length = true
  /-- Once the runs before it have ended, the run has asked for the base URL if all wait, -/
  asked : ∀ later, (∀ run < k.runs.length, ((k.move .start).after later).hasEnded run = true) →
    ((k.move .start).after later).Waits → (k.move .start).Asked k.runs.length later
  /-- and else it asks within its next two steps. -/
  asks : ∀ later, (∀ run < k.runs.length, ((k.move .start).after later).hasEnded run = true) →
    ∀ choice choice' now now', (k.move .start).Asked k.runs.length
      (later ++ [.go k.runs.length choice now, .go k.runs.length choice' now'])

/-- From this keeper a stop and a start lead back to a connection. -/
structure Recovers (k : Keeper) : Prop where
  /-- The stop says whether a connection was wanted. -/
  changed : k.stop.1 = k.link.wanted
  /-- It leaves none wanted, there or to come. -/
  rests : k.stop.2.Rests
  /-- The next start begins afresh, whatever comes in between. -/
  starts : ∀ between, k.stop.2.Unstarted between → (k.stop.2.after between).StartsAfresh
  /-- The runs before it have ended whenever all wait after the grace period of the stop, if time
  did not pass over the moment at which a run was due. -/
  ended : ∀ between later, k.stop.2.Unstarted between →
    k.stop.2.isPunctual (between ++ .start :: later) = true →
    (k.stop.2.after (between ++ .start :: later)).Waits →
    k.clock + closeGrace ≤ (k.stop.2.after (between ++ .start :: later)).clock →
      ∀ run < (k.stop.2.after between).runs.length,
        (k.stop.2.after (between ++ .start :: later)).hasEnded run = true

/-- Where no connection is wanted a start begins afresh. -/
theorem Reachable.startsAfresh (reachable : k.Reachable) (unwanted : k.link.wanted = false) :
    k.StartsAfresh := by
  have begins : k.move .start = k.begun := by
    rw [move_start, start_of_unwanted unwanted]
  obtain ⟨phase, fresh⟩ := fresh_begun k
  have queued (later : List Move) : Queued (k.begun.after later) := by
    rw [← begins]
    exact (reachable.after (.start :: later)).queued
  refine ⟨?_, ?_, ?_, ?_, ?_⟩
  · rw [begins]
    exact startOn_of_unwanted unwanted
  · rw [begins]
    rfl
  · rw [begins, isCurrent_begun reachable.numbered, beq_self_eq_true]
  · rw [begins]
    intro later ended waits
    exact (queued later).asked_of_waits phase fresh waits ended
  · rw [begins]
    intro later ended
    exact (queued later).asked_of_steps phase fresh ended

/-- **Whatever has failed, a stop and a start begin afresh**, from every reachable keeper. -/
theorem start_recovers (reachable : k.Reachable) : k.Recovers := by
  have stopped : k.stop.2.Reachable := reachable.after [.stop]
  have rests := reachable.rests_stop
  refine ⟨changed_stop k, rests, fun between unstarted => ?_, ?_⟩
  · apply (stopped.after between).startsAfresh
    rw [(silent_after rests.unwanted unstarted).link]
    exact rests.unwanted
  · intro between later unstarted punctual waits late run lt
    -- Nothing was begun since the stop, so the runs before the new one are those of the stop.
    have same : (k.stop.2.after between).runs.length = k.runs.length := by
      rw [← (stopped.after between).numbered, (silent_after rests.unwanted unstarted).link, stop_eq]
      exact (number_stop k.link).trans reachable.numbered
    exact (reachable.ended_of_stop punctual).1 waits late run (same ▸ lt)

/-- Two entries of the log fail, and the base URL after them.  The first run dies while its socket
registers: there is a connection, and no closer at hand.  The second dies while it arms a retry: one
is to come, and no run sleeps.  The run of the start after these still asks. -/
theorem start_recovers_twice :
    let go (run : Nat) : Move := .go run .plain ""
    let opened := (new .standard "http://a").after
      [.act (.accept false true) rfl, .start, go 0, .act .failLog rfl, go 0]
    let armed := opened.after [.stop, .act (.refuse [.refused "no"]) rfl, .start, go 1, go 1,
      .act (.failLogAfter 1) rfl, go 1]
    let before := armed.stop.2.after [.act .failUrl rfl]
    (opened.link.connected = true ∧ opened.live = none ∧ ∀ r ∈ opened.runs, r.phase = .ended) ∧
      (armed.Reachable ∧ armed.link.wanted = true ∧ armed.link.pending ≠ none ∧
        ∀ r ∈ armed.runs, r.phase = .ended) ∧
      armed.stop.1 = true ∧ armed.stop.2.Rests ∧ (before.startOn true).1 = .ok true ∧
      (before.move .start).Asked 2 [go 2, go 2] ∧
      ((before.move .start).after [go 2, go 2]).hasEnded 2 = true := by
  intro go opened armed before
  have reachable : armed.Reachable := by
    have there : opened.Reachable := ⟨.standard, "http://a", _, rfl⟩
    exact there.after _
  have recovers := start_recovers reachable
  have unstarted : armed.stop.2.Unstarted [.act .failUrl rfl] := ⟨nofun, trivial⟩
  have afresh : before.StartsAfresh := recovers.starts _ unstarted
  have ended : ∀ run < before.runs.length, (before.move .start).hasEnded run = true := by
    decide +kernel
  have asked := afresh.asks [] ended .plain .plain "" ""
  rw [show before.runs.length = 2 by decide +kernel] at asked
  refine ⟨⟨?_, ?_, ?_⟩, ⟨reachable, ?_, ?_, ?_⟩, recovers.changed.trans ?_, recovers.rests,
    congrArg Prod.fst afresh.answer, asked, ?_⟩
  all_goals decide +kernel

end VoiceTicket.Keeper
