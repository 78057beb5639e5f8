/-
  No run overtakes another.

  1. **Data** — `Overtakes k`: some run may make an attempt now while an earlier run has not ended.
     `Free k`: where the next run would wait for nobody, there is nobody to wait for.

  2. **Specification** — `Chained`: each run waits for the one before it or has all of them behind
     it.  As long as every run begins in a free keeper none overtakes (`Guarded.chained`); and a
     run that begins in a keeper that is not free overtakes at once.

  3. **Crux** — a run waits for its predecessor only, and that waited for its own: the end of a run
     that waits no longer means the end of all before it.  A shutdown takes the predecessor away,
     and until it returns the keeper is not free.
-/
import VoiceTicket.Proofs.Keeper.Calls

namespace VoiceTicket.Keeper

variable {k k' : Keeper} {now : String} {run : Nat} {r : Run}

/-! ## Phases of runs -/

/-- What a run waits for, if there is such a run. -/
def phase? (k : Keeper) (run : Nat) : Option Phase := (k.runs[run]?).map Run.phase

theorem phase?_of_run (h : k.runs[run]? = some r) : k.phase? run = some r.phase := by
  rw [phase?, h]
  rfl

theorem phase?_eq_none_iff : k.phase? run = none ↔ k.runs.length ≤ run := by
  rw [phase?, Option.map_eq_none_iff, List.getElem?_eq_none_iff]

theorem hasEnded_iff :
    k.hasEnded run = true ↔ k.phase? run = none ∨ k.phase? run = some .ended := by
  unfold hasEnded phase?
  cases k.runs[run]? with
  | none => simp
  | some r => simp

theorem hasEnded_of_length_le (le : k.runs.length ≤ run) : k.hasEnded run = true :=
  hasEnded_iff.2 (.inl (phase?_eq_none_iff.2 le))

theorem lt_of_going (going : k.hasEnded run = false) : run < k.runs.length := by
  rw [← Nat.not_le]
  intro le
  rw [hasEnded_of_length_le le] at going
  cases going

/-- A turn changes the phase of its own run only. -/
theorem Shift.phase?_eq {p : Phase} (h : k.runs[run]? = some r) (shift : Shift k run r p k')
    (i : Nat) : k'.phase? i = if i = run then some p else k.phase? i := by
  rw [phase?, phase?, shift.runs, List.getElem?_modify]
  by_cases same : i = run
  · subst same
    simp [h]
  · simp [same, Ne.symm same]

theorem phase?_begun (i : Nat) :
    k.begun.phase? i = if i = k.runs.length then some (.first k.previous) else k.phase? i := by
  show ((k.runs ++ [(⟨false, .first k.previous⟩ : Run)])[i]?).map Run.phase = _
  rcases Nat.lt_trichotomy i k.runs.length with lt | rfl | gt
  · rw [List.getElem?_append_left lt, if_neg (Nat.ne_of_lt lt), phase?]
  · rw [List.getElem?_concat_length, if_pos rfl]
    rfl
  · rw [List.getElem?_eq_none (by simp; omega), if_neg (Nat.ne_of_gt gt),
      phase?_eq_none_iff.2 (Nat.le_of_lt gt)]
    rfl

/-! ## What a turn asks for -/

/-- What a run that takes its turn was at. -/
theorem Turn.phase_cases (turn : Turn k now run r k') :
    r.phase.reports = true ∨ (∃ earlier, r.phase = .waiting earlier ∧ k.hasEnded earlier = true) ∨
      (∃ socket until_, r.phase = .draining socket until_) ∨ ∃ until_, r.phase = .sleeping until_ := by
  cases turn with
  | resumed phase ended => exact .inr (.inl ⟨_, phase, ended⟩)
  | skipped phase | drained phase => exact .inr (.inr (.inl ⟨_, _, phase⟩))
  | woken phase => exact .inr (.inr (.inr ⟨_, phase⟩))
  | failed reports => exact .inl reports
  | quit phase =>
    rcases phase with phase | ⟨_, phase⟩ | ⟨until_, phase⟩
    · exact .inl (by rw [phase]; rfl)
    · exact .inl (by rw [phase]; rfl)
    · exact .inr (.inr (.inr ⟨until_, phase⟩))
  | unasked phase | dialled phase | rejected phase | refused phase | registered phase | late phase
  | heard phase | erred phase | closed phase | dropped phase | left phase =>
    exact .inl (by rw [phase]; rfl)

theorem Turn.phase_ne_ended (turn : Turn k now run r k') : r.phase ≠ .ended := by
  intro ended
  rcases turn.phase_cases with reports | ⟨_, phase, _⟩ | ⟨_, _, phase⟩ | ⟨_, phase⟩
  · rw [ended] at reports
    cases reports
  all_goals
    rw [ended] at phase
    cases phase

/-- A run that waits for another one goes on only once that has ended. -/
theorem Turn.ended_of_waiting {earlier : Nat} (turn : Turn k now run r k')
    (waiting : r.phase = .waiting earlier) : k.hasEnded earlier = true := by
  rcases turn.phase_cases with reports | ⟨_, phase, ended⟩ | ⟨_, _, phase⟩ | ⟨_, phase⟩
  · rw [waiting] at reports
    cases reports
  · rw [waiting] at phase
    cases phase
    exact ended
  all_goals
    rw [waiting] at phase
    cases phase

theorem Retry.dialled_eq (retry : Retry k run k') : k'.dialled = k.dialled := by
  cases retry <;> rfl

theorem dialled_readNext? {socket : Nat} {e : SocketEvent}
    (h : k.readNext? socket = some (e, k')) : k'.dialled = k.dialled :=
  (alike_readNext? h).dialled

/-- Only a run that is about to make an attempt makes one. -/
theorem Turn.attempting_of_dialled (turn : Turn k now run r k') (dials : k'.dialled ≠ k.dialled) :
    r.phase = .attempting := by
  cases turn with
  | unasked phase | dialled phase | rejected phase => exact phase
  | resumed | quit | woken | registered | late => exact absurd rfl dials
  | refused _ _ retry => exact absurd retry.dialled_eq dials
  | heard _ _ read | erred _ _ read | skipped _ read =>
    exact absurd (dialled_readNext? read) dials
  | closed _ _ read retry =>
    have released := (alike_release _).dialled.trans (dialled_readNext? read)
    exact absurd (retry.dialled_eq.trans released) dials
  | dropped _ _ read =>
    exact absurd ((alike_release _).dialled.trans (dialled_readNext? read)) dials
  | @left _ k₁ _ _ read =>
    rcases read with rfl | ⟨e, read⟩
    · exact absurd (alike_release _).dialled dials
    · exact absurd ((alike_release _).dialled.trans (dialled_readNext? read)) dials
  | drained _ read =>
    rcases read with ⟨rfl, _⟩ | ⟨reason, read⟩
    · exact absurd rfl dials
    · exact absurd (dialled_readNext? read) dials
  | failed _ _ _ rest _ => exact absurd rest.dialled dials

/-! ## The chain of runs -/

/-- Each run waits for the one before it, or has all those before it behind it. -/
structure Chained (k : Keeper) : Prop where
  waits : ∀ i earlier, k.phase? i = some (.waiting earlier) → earlier + 1 = i
  past : ∀ i p, k.phase? i = some p → p.isWaiting = false → ∀ j < i, k.hasEnded j = true
  last : ∀ earlier, k.previous = some earlier → earlier + 1 = k.runs.length

/-- Where the next run would wait for nobody, there is nobody to wait for. -/
def Free (k : Keeper) : Prop := k.previous = none → ∀ run, k.hasEnded run = true

theorem hasEnded_of_phase? (same : k'.phase? run = k.phase? run) :
    k'.hasEnded run = k.hasEnded run := by
  rw [Bool.eq_iff_iff, hasEnded_iff, hasEnded_iff, same]

theorem length_of_phase? (same : ∀ i, k'.phase? i = k.phase? i) :
    k'.runs.length = k.runs.length := by
  have le {k₁ k₂ : Keeper} (same : ∀ i, k₁.phase? i = k₂.phase? i) :
      k₁.runs.length ≤ k₂.runs.length := by
    rw [← phase?_eq_none_iff, same]
    exact phase?_eq_none_iff.2 (Nat.le_refl _)
  exact Nat.le_antisymm (le same) (le fun i => (same i).symm)

/-- The chain is a matter of the phases. -/
theorem Chained.of_phases (chained : Chained k) (same : ∀ i, k'.phase? i = k.phase? i)
    (previous : k'.previous = k.previous ∨ k'.previous = none) : Chained k' := by
  refine ⟨?_, ?_, ?_⟩
  · intro i earlier phase
    rw [same] at phase
    exact chained.waits i earlier phase
  · intro i p phase awake j lt
    rw [same] at phase
    rw [hasEnded_of_phase? (same j)]
    exact chained.past i p phase awake j lt
  · intro earlier prev
    rw [length_of_phase? same]
    rcases previous with kept | none
    · exact chained.last earlier (kept ▸ prev)
    · rw [none] at prev
      cases prev

/-- Once the run before a run has ended, all before it have. -/
theorem Chained.all_ended (chained : Chained k) {earlier : Nat} (lt : earlier < k.runs.length)
    (ended : k.hasEnded earlier = true) : ∀ j ≤ earlier, k.hasEnded j = true := by
  intro j le
  rcases Nat.eq_or_lt_of_le le with rfl | before
  · exact ended
  · rcases hasEnded_iff.1 ended with none | phase
    · have := phase?_eq_none_iff.1 none
      omega
    · exact chained.past earlier .ended phase rfl j before

/-- What has ended stays so through a turn. -/
theorem Turn.hasEnded (h : k.runs[run]? = some r) (turn : Turn k now run r k') {j : Nat}
    (ended : k.hasEnded j = true) : k'.hasEnded j = true := by
  obtain ⟨p, shift⟩ := turn.shift h
  rw [hasEnded_of_phase?, ended]
  rw [shift.phase?_eq h, if_neg]
  rintro rfl
  rcases hasEnded_iff.1 ended with none | phase
  · rw [phase?_of_run h] at none
    cases none
  · rw [phase?_of_run h] at phase
    exact turn.phase_ne_ended (Option.some.inj phase)

theorem Chained.turn (chained : Chained k) (h : k.runs[run]? = some r)
    (turn : Turn k now run r k') : Chained k' := by
  obtain ⟨p, shift⟩ := turn.shift h
  refine ⟨?_, ?_, ?_⟩
  · intro i earlier phase
    rw [shift.phase?_eq h] at phase
    split at phase
    · have awake := shift.awake
      rw [Option.some.inj phase] at awake
      cases awake
    · exact chained.waits i earlier phase
  · intro i p' phase awake j lt
    apply turn.hasEnded h
    rw [shift.phase?_eq h] at phase
    split at phase
    · next same =>
      subst same
      cases waiting : r.phase with
      | waiting earlier =>
        -- The run before it has ended, and so have all before that one.
        have before := chained.waits i earlier (by rw [phase?_of_run h, waiting])
        have exists_ := (List.getElem?_eq_some_iff.1 h).1
        exact chained.all_ended (by omega) (turn.ended_of_waiting waiting) j (by omega)
      | _ =>
        refine chained.past i _ (phase?_of_run h) ?_ j lt
        rw [waiting]
        rfl
    · exact chained.past i p' phase awake j lt
  · intro earlier prev
    rw [shift.runs, List.length_modify]
    exact chained.last earlier (shift.previous ▸ prev)

theorem hasEnded_begun {j : Nat} (lt : j < k.runs.length) :
    k.begun.hasEnded j = k.hasEnded j := by
  apply hasEnded_of_phase?
  rw [phase?_begun, if_neg (Nat.ne_of_lt lt)]

/-- A run that begins in a free keeper takes its place in the chain. -/
theorem Chained.begun (chained : Chained k) (free : k.Free) : Chained k.begun := by
  refine ⟨?_, ?_, ?_⟩
  · intro i earlier phase
    rw [phase?_begun] at phase
    split at phase
    · next same =>
      subst same
      cases previous : k.previous with
      | none =>
        rw [previous] at phase
        cases phase
      | some run =>
        rw [previous] at phase
        cases phase
        exact chained.last _ previous
    · exact chained.waits i earlier phase
  · intro i p phase awake j lt
    rw [phase?_begun] at phase
    split at phase
    · next same =>
      subst same
      rw [hasEnded_begun lt]
      cases previous : k.previous with
      | none => exact free previous j
      | some run =>
        rw [previous] at phase
        cases phase
        cases awake
    · have exists_ : i < k.runs.length := by
        rw [← Nat.not_le, ← phase?_eq_none_iff, phase]
        nofun
      rw [hasEnded_begun (by omega)]
      exact chained.past i p phase awake j lt
  · intro earlier prev
    have same : k.runs.length = earlier := Option.some.inj prev
    simp [Keeper.begun, same]

/-! ## Who overtakes -/

/-- Some run may make an attempt now, and an earlier one has not ended. -/
def Overtakes (k : Keeper) : Prop :=
  ∃ run choice now, (k.move (.go run choice now)).dialled ≠ k.dialled ∧
    ∃ earlier < run, k.hasEnded earlier = false

/-- Every run was begun in a free keeper. -/
inductive Guarded : Keeper → Prop where
  | new (policy : Policy) (baseUrl : String) : Guarded (new policy baseUrl)
  | move {k : Keeper} (m : Move) (guarded : Guarded k)
      (free : m = .start → k.link.wanted = false → k.Free) : Guarded (k.move m)

theorem Guarded.reachable (guarded : Guarded k) : k.Reachable := by
  induction guarded with
  | new policy baseUrl => exact reachable_new policy baseUrl
  | move m _ _ ih => exact ih.after [m]

/-- All moves keep the chain, if runs begin in free keepers only. -/
theorem Chained.moved {m : Move} (chained : Chained k) (moved : Moved k m k')
    (free : m = .start → k.link.wanted = false → k.Free) : Chained k' := by
  cases moved with
  | ignored | waits => exact chained
  | begun unwanted => exact chained.begun (free rfl unwanted)
  | stopped => exact chained.of_phases (phase_cancelLast k) (.inl rfl)
  | handedOver => exact chained.of_phases (fun _ => rfl) (.inr rfl)
  | turns h turn => exact chained.turn h turn
  | aside aside =>
    refine chained.of_phases ?_ (.inl aside.previous)
    intro i
    rw [phase?, phase?, aside.runs]

theorem Guarded.chained (guarded : Guarded k) : Chained k := by
  induction guarded with
  | new policy baseUrl => exact ⟨nofun, nofun, nofun⟩
  | @move k m _ free chained => exact chained.moved (moved k m) free

/-- In a chain no run overtakes. -/
theorem Chained.not_overtakes (chained : Chained k) : ¬ k.Overtakes := by
  rintro ⟨run, choice, now, dials, earlier, before, going⟩
  rcases move_go k run choice now with same | ⟨r, h, turn⟩
  · rw [same] at dials
    exact dials rfl
  · have attempting := turn.attempting_of_dialled dials
    have ended := chained.past run .attempting (by rw [phase?_of_run h, attempting]) rfl
    rw [ended earlier before] at going
    cases going

/-- A run that begins where there is nobody to wait for makes its attempt at once. -/
theorem dialled_begun (unnamed : k.previous = none) (numbered : k.link.run = k.runs.length)
    {url : Url} (channel : Channel.url k.baseUrl = .ok url) (asked : k.urlFails = false)
    (heeded : k.logFails = none) (choice : Choice) (now : String) :
    (k.begun.move (.go k.runs.length choice now)).dialled = k.dialled ++ [url] := by
  have run : k.begun.runs[k.runs.length]? = some ⟨false, .attempting⟩ := by
    simp [begun, unnamed, Phase.first]
  have current : k.begun.isCurrent k.runs.length = true := by
    simp [isCurrent, Link.isCurrent, begun, numbered]
  have arrives := reportLog_of_heeded (k := k.begun) heeded .info ("Connecting to " ++ url.text)
  have attempt : k.begun.attempt k.runs.length choice.share
      = .ok ((k.begun.told [.log .info ("Connecting to " ++ url.text)]).dial k.runs.length
          url) := by
    unfold Keeper.attempt
    rw [show k.begun.urlFails = false from asked, show k.begun.baseUrl = k.baseUrl from rfl,
      channel]
    simp only [Bool.false_eq_true, if_false, current, if_true, arrives]
    rfl
  have step : k.begun.advance now k.runs.length choice
      = some ((k.begun.told [.log .info ("Connecting to " ++ url.text)]).dial k.runs.length
          url) := by
    simp only [advance, run, effect?, attempt]
    rfl
  show ((k.begun.advance now k.runs.length choice).getD k.begun).dialled = _
  rw [step]
  rfl

/-- **No run overtakes another as long as runs begin in free keepers, and in no other.**  Where
every run so far has begun in a free keeper, none overtakes; and if nothing keeps the next run from
making its attempt, it overtakes exactly if it begins in a keeper that is not free. -/
theorem overtakes_start_iff (guarded : Guarded k) :
    ¬ k.Overtakes ∧
      (k.link.wanted = false → (∃ url, Channel.url k.baseUrl = .ok url) → k.urlFails = false →
        k.logFails = none → ((k.move .start).Overtakes ↔ ¬ k.Free)) := by
  refine ⟨guarded.chained.not_overtakes, ?_⟩
  rintro unwanted ⟨url, channel⟩ asked heeded
  constructor
  · intro overtakes free
    exact (guarded.move .start fun _ _ => free).chained.not_overtakes overtakes
  · intro bound
    simp only [Free, Classical.not_imp, Classical.not_forall, Bool.not_eq_true] at bound
    obtain ⟨unnamed, earlier, going⟩ := bound
    rw [move_start, start_of_unwanted unwanted]
    have before := lt_of_going going
    refine ⟨k.runs.length, .plain, "", ?_, earlier, before, (hasEnded_begun before).trans going⟩
    have dials := dialled_begun unnamed guarded.reachable.numbered channel asked heeded .plain ""
    rw [dials]
    intro same
    have := congrArg List.length same
    simp [Keeper.begun] at this

/-- A shutdown has taken the run that drains its socket: none overtakes yet. -/
theorem overtakes_start_iff_draining :
    let k := (new .standard "http://a").after
      [.act (.accept false true) rfl, .start, .go 0 .plain "", .go 0 .plain "", .stop, .handOver,
        .go 0 .plain ""]
    Guarded k ∧ ¬ k.Overtakes ∧ ((k.move .start).Overtakes ↔ ¬ k.Free) := by
  intro k
  have prepared : Guarded ((new .standard "http://a").move (.act (.accept false true) rfl)) :=
    .move _ (.new .standard "http://a") nofun
  have begun := prepared.move .start fun _ _ _ _ => rfl
  have reads := (begun.move (.go 0 .plain "") nofun).move (.go 0 .plain "") nofun
  have guarded : Guarded k :=
    ((reads.move .stop nofun).move .handOver nofun).move (.go 0 .plain "") nofun
  obtain ⟨none, begins⟩ := overtakes_start_iff guarded
  have channel : (Channel.url k.baseUrl).isOk = true := by decide +kernel
  refine ⟨guarded, none, begins (by decide +kernel) ?_ (by decide +kernel) (by decide +kernel)⟩
  cases accepted : Channel.url k.baseUrl with
  | ok url => exact ⟨url, rfl⟩
  | error fault =>
    rw [accepted] at channel
    cases channel

/-- A start comes while a shutdown still waits for its run to let go of a stubborn socket: the new
run makes its attempt, and the old one has not ended. -/
theorem not_forall_not_overtakes : ¬ ∀ k : Keeper, k.Reachable → ¬ k.Overtakes := by
  intro never
  let moves : List Move :=
    [.act (.accept false true) rfl, .start, .go 0 .plain "", .go 0 .plain "", .stop, .handOver,
      .go 0 .plain "", .start]
  apply never ((new .standard "http://a").after moves) ⟨.standard, "http://a", moves, rfl⟩
  exact ⟨1, .plain, "", by decide +kernel, 0, Nat.zero_lt_one, by decide +kernel⟩

end VoiceTicket.Keeper
