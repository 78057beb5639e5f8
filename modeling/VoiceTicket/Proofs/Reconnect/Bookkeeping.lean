/-
  The book that is kept of a connection, over any sequence of transitions.

  1. **Data** — a `Transition` is one of the five; a close brings its policy and its share of the
     jitter.  An `Event` is what a transition came to, and the events since the beginning are a
     history.  `failuresInARow`, `retries` and `runs` are counts of a history, and `wants` says
     whether its last run has been stopped.

  2. **Specification** — after any sequence of transitions the book is right (`kept_of_history`):
     what `Kept` says of the link, and of any transition that comes next, is said in terms of the
     history alone.

  3. **Crux** — every field of the link is a count of the history (`Counted`).  What an event does
     to each field is said once (`Follows`), for all five transitions (`follows_take`); the counts
     do the same when one event is put behind a history (`Counted.concat`).  A run that began
     before a stop has too small a number: the run under way began after it
     (`Counted.lt_of_stopped`).
-/
import Mathlib.Data.List.DropRight
import VoiceTicket.Reconnect.Link

namespace VoiceTicket

namespace Link

/-! ## Transitions and what they come to -/

/-- What can be done with a link, in any order. -/
inductive Transition where
  | start
  | opened
  | closed (policy : Policy) (fraction : Binary64)
  | retryFired
  | stop
deriving DecidableEq, Repr

/-- What a transition came to. -/
inductive Event where
  /-- A run has begun, with this number. -/
  | began (run : Nat)
  /-- A run was under way already. -/
  | running
  | opened
  | closed (closing : Closing)
  | retryFired
  /-- There was a stop, and a connection had been wanted or not. -/
  | stopped (wanted : Bool)
deriving DecidableEq, Repr

/-- Makes a transition. -/
def take (l : Link) : Transition → Event × Link
  | .start =>
    match l.start? with
    | some l' => (.began l'.run, l')
    | none => (.running, l)
  | .opened => (.opened, l.opened)
  | .closed policy fraction =>
    (.closed (l.closed policy fraction).1, (l.closed policy fraction).2)
  | .retryFired => (.retryFired, l.retryFired)
  | .stop => (.stopped l.stop.1, l.stop.2)

/-- The link after all these transitions. -/
def after (l : Link) : List Transition → Link
  | [] => l
  | t :: ts => (l.take t).2.after ts

/-- What all these transitions came to, the oldest first. -/
def history (l : Link) : List Transition → List Event
  | [] => []
  | t :: ts => (l.take t).1 :: (l.take t).2.history ts

/-- The test for the run under way, with numbers kept in 64 bits: after the greatest number they
    begin again. -/
def isCurrent64 (l : Link) (run : Nat) : Bool :=
  l.wanted && UInt64.ofNat l.run == UInt64.ofNat run

/-! ## The counts of a history -/

namespace Event

@[simp]
def isBeginning : Event → Bool
  | .began _ => true
  | _ => false

/-- After these the failures are counted anew. -/
@[simp]
def isReset : Event → Bool
  | .began _ | .opened => true
  | _ => false

/-- A close while a connection was wanted. -/
@[simp]
def isFailure : Event → Bool
  | .closed closing => closing != .unwanted
  | _ => false

/-- A close that returned a delay. -/
@[simp]
def isRetry : Event → Bool
  | .closed (.armed _) => true
  | _ => false

@[simp]
def isStop : Event → Bool
  | .stopped _ => true
  | _ => false

end Event

/-- The events since the last one of a kind. -/
def since (kind : Event → Bool) (past : List Event) : List Event := past.rtakeWhile (!kind ·)

/-- The closes while a connection was wanted, since the last opening or beginning. -/
def failuresInARow (past : List Event) : Nat := (since Event.isReset past).countP Event.isFailure

/-- The closes that returned a delay, since the last beginning. -/
def retries (past : List Event) : Nat := (since Event.isBeginning past).countP Event.isRetry

/-- The beginnings so far. -/
def runs (past : List Event) : Nat := past.countP Event.isBeginning

/-- A run has begun since the last stop. -/
def wants (past : List Event) : Bool := (since Event.isStop past).any Event.isBeginning

section Concat

variable (kind : Event → Bool) (past : List Event) (e : Event)

theorem since_concat :
    since kind (past ++ [e]) = if kind e then [] else since kind past ++ [e] := by
  rw [since, List.rtakeWhile_concat]
  cases kind e <;> rfl

theorem countP_concat : (past ++ [e]).countP kind = past.countP kind + (kind e).toNat := by
  cases counts : kind e <;> simp [counts]

theorem failuresInARow_concat :
    failuresInARow (past ++ [e]) =
      if e.isReset then 0 else failuresInARow past + e.isFailure.toNat := by
  rw [failuresInARow, since_concat]
  split
  · rfl
  · exact countP_concat _ _ e

theorem retries_concat :
    retries (past ++ [e]) = if e.isBeginning then 0 else retries past + e.isRetry.toNat := by
  rw [retries, since_concat]
  split
  · rfl
  · exact countP_concat _ _ e

theorem runs_concat : runs (past ++ [e]) = runs past + e.isBeginning.toNat :=
  countP_concat _ _ e

theorem wants_concat : wants (past ++ [e]) = (!e.isStop && (wants past || e.isBeginning)) := by
  rw [wants, since_concat]
  cases e.isStop
  · exact List.any_append.trans (congrArg (wants past || ·) (Bool.or_false _))
  · rfl

end Concat

/-- Where a run is under way after a stop, one has begun after that stop. -/
theorem runs_pos_of_wants {before later : List Event} {wanted : Bool}
    (now : wants (before ++ .stopped wanted :: later) = true) : 0 < runs later := by
  induction later using List.reverseRecOn with
  | nil => simp [wants_concat] at now
  | append_singleton later e ih =>
    rw [← List.cons_append, ← List.append_assoc, wants_concat] at now
    rw [runs_concat]
    cases beginning : e.isBeginning with
    | true => exact Nat.succ_pos _
    | false =>
      rw [beginning, Bool.or_false, Bool.and_eq_true] at now
      have : 0 < runs later := ih now.2
      omega

/-! ## What an event does to the book -/

/-- What an event leaves of a link, field by field. -/
structure Follows (l : Link) (e : Event) (l' : Link) : Prop where
  wanted : l'.wanted = (!e.isStop && (l.wanted || e.isBeginning))
  attempt : l'.attempt =
    if e.isReset then 0 else if e.isFailure then min (l.attempt + 1) maxAttempt else l.attempt
  scheduled : l'.scheduled = if e.isBeginning then 0 else l.scheduled + e.isRetry.toNat
  run : l'.run = l.run + e.isBeginning.toNat
  number : ∀ run, e = .began run → run = l'.run
  apart : (l.connected = true → l.pending = none) → l'.connected = true → l'.pending = none

theorem follows_start (l : Link) : Follows l (l.take .start).1 (l.take .start).2 := by
  cases wanted : l.wanted with
  | true =>
    have taken : l.take .start = (.running, l) := by simp [take, start?, wanted]
    rw [taken]
    exact ⟨by simp, rfl, rfl, rfl, nofun, id⟩
  | false =>
    have taken : l.take .start = (.began (l.run + 1), ⟨true, 0, false, none, 0, l.run + 1⟩) := by
      simp [take, start?, wanted]
    rw [taken]
    refine ⟨by simp, rfl, rfl, rfl, ?_, fun _ _ => rfl⟩
    intro run begun
    cases begun
    rfl

theorem follows_closed (l : Link) (policy : Policy) (fraction : Binary64) :
    Follows l (l.take (.closed policy fraction)).1 (l.take (.closed policy fraction)).2 := by
  show Follows l (.closed (l.closed policy fraction).1) (l.closed policy fraction).2
  cases wanted : l.wanted with
  | false =>
    rw [closed_of_unwanted wanted]
    exact ⟨by simp, rfl, rfl, rfl, by simp, by simp⟩
  | true =>
    rw [closed_of_wanted wanted]
    cases policy.delay? l.failed.attempt fraction with
    | some delay =>
      exact ⟨by simp [retrying, failed], rfl, rfl, rfl, by simp, by simp [retrying, failed]⟩
    | none =>
      exact ⟨by simp [failed], rfl, rfl, rfl, by simp, by simp [failed]⟩

theorem follows_stop (l : Link) : Follows l (l.take .stop).1 (l.take .stop).2 := by
  show Follows l (.stopped l.stop.1) l.stop.2
  cases wanted : l.wanted with
  | true =>
    have stopped :
        l.stop = (true, { l with wanted := false, connected := false, pending := none }) := by
      simp [stop, wanted]
    rw [stopped]
    exact ⟨rfl, rfl, rfl, rfl, nofun, nofun⟩
  | false =>
    have stopped : l.stop = (false, l) := by simp [stop, wanted]
    rw [stopped]
    exact ⟨wanted, rfl, rfl, rfl, nofun, id⟩

/-- Every transition does to the fields what its event tells. -/
theorem follows_take (l : Link) (t : Transition) : Follows l (l.take t).1 (l.take t).2 := by
  cases t with
  | start => exact follows_start l
  | opened =>
    exact ⟨by simp [take, opened], rfl, rfl, rfl, nofun, fun _ _ => rfl⟩
  | closed policy fraction => exact follows_closed l policy fraction
  | retryFired =>
    exact ⟨by simp [take, retryFired], rfl, rfl, rfl, nofun, fun _ _ => rfl⟩
  | stop => exact follows_stop l

/-! ## The fields are counts -/

/-- The link holds the counts of its history. -/
structure Counted (l : Link) (past : List Event) : Prop where
  wanted : l.wanted = wants past
  attempt : l.attempt = min (failuresInARow past) maxAttempt
  scheduled : l.scheduled = retries past
  run : l.run = runs past
  apart : l.connected = true → l.pending = none
  /-- The runs are numbered as they begin. -/
  numbered : ∀ before run later, past = before ++ .began run :: later → run = runs before + 1

namespace Counted

variable {l l' : Link} {past : List Event} {e : Event}

theorem of_idle : Counted idle [] := by
  refine ⟨rfl, rfl, rfl, rfl, nofun, ?_⟩
  intro before run later split
  simp at split

/-- **The step**: what an event does to a field is what it does to the count. -/
theorem concat (counted : Counted l past) (follows : Follows l e l') :
    Counted l' (past ++ [e]) where
  wanted := by rw [follows.wanted, wants_concat, counted.wanted]
  attempt := by
    rw [follows.attempt, failuresInARow_concat, counted.attempt]
    cases e.isReset <;> cases e.isFailure <;> simp
    -- One more, and not beyond the greatest: that may be looked at once or twice.
    omega
  scheduled := by rw [follows.scheduled, retries_concat, counted.scheduled]
  run := by rw [follows.run, runs_concat, counted.run]
  apart := follows.apart counted.apart
  numbered := by
    intro before run later split
    rcases List.eq_nil_or_concat' later with rfl | ⟨later, last, rfl⟩
    · obtain ⟨rfl, begun⟩ := List.append_inj' split rfl
      obtain rfl : e = .began run := by simpa using begun
      rw [follows.number run rfl, follows.run, counted.run]
      rfl
    · rw [← List.cons_append, ← List.append_assoc] at split
      exact counted.numbered before run later (List.append_inj' split rfl).1

/-- **The run**: the counts are right after any transitions. -/
theorem history (counted : Counted l past) (ts : List Transition) :
    Counted (l.after ts) (past ++ l.history ts) := by
  induction ts generalizing l past with
  | nil => simpa [after, Link.history] using counted
  | cons t ts ih =>
    have next : Counted (l.take t).2 (past ++ [(l.take t).1]) := counted.concat (follows_take l t)
    have rest := ih next
    rwa [List.append_assoc, List.singleton_append] at rest

/-- No run has a greater number than there were beginnings. -/
theorem le_of_began (counted : Counted l past) {before later : List Event}
    (split : past = before ++ later) {run : Nat} (begun : .began run ∈ before) :
    run ≤ runs before := by
  obtain ⟨first, second, rfl⟩ := List.append_of_mem begun
  have number : run = runs first + 1 :=
    counted.numbered first run (second ++ later) (by rw [split]; simp)
  have counts : runs (first ++ .began run :: second) = runs first + (runs second + 1) := by
    simp [runs, List.countP_cons]
  omega

/-- **A run from before a stop has too small a number**, if one is under way. -/
theorem lt_of_stopped (counted : Counted l past) {before later : List Event} {stopped : Bool}
    (split : past = before ++ .stopped stopped :: later) {run : Nat} (begun : .began run ∈ before)
    (wanted : l.wanted = true) : run < l.run := by
  have early : run ≤ runs before := counted.le_of_began split begun
  have late : 0 < runs later := by
    apply runs_pos_of_wants
    rw [← split, ← counted.wanted]
    exact wanted
  have counts : l.run = runs before + runs later := by
    rw [counted.run, split]
    simp [runs]
  omega

end Counted

/-! ## What is kept -/

/-- What a close comes to that is to wait for this delay, if there is such a duration. -/
def Closing.ofDelay : Option Duration → Closing
  | some delay => .armed delay
  | none => .overflow

/-- What a history says of the link it has led to, and of what can be done with it next. -/
structure Kept (l : Link) (past : List Event) : Prop where
  /-- There is never a connection and an armed retry. -/
  apart : ¬(l.connected = true ∧ l.pending.isSome = true)
  /-- A connection is wanted if a run has begun since the last stop. -/
  wanted : l.wanted = wants past
  /-- A run begins exactly if no connection is wanted. -/
  begins : l.start?.isSome = !l.wanted
  /-- All counters are back at nothing where a run begins, and its number is the next. -/
  anew : ∀ l', l.start? = some l' →
    l'.attempt = 0 ∧ l'.scheduled = 0 ∧ l'.connected = false ∧ l'.pending = none ∧
      l'.wanted = true ∧ l'.run = runs past + 1
  /-- A close while a connection is wanted is one more failure in a row: it returns, and arms, the
      delay of the policy for so many failures. -/
  closes : l.wanted = true → ∀ (policy : Policy) (fraction : Binary64),
    (l.closed policy fraction).1 =
        .ofDelay (policy.delay? (min (failuresInARow past + 1) maxAttempt) fraction) ∧
      ∀ delay, (l.closed policy fraction).1 = .armed delay →
        (l.closed policy fraction).2.pending = some delay
  /-- The closes that returned a delay are counted. -/
  scheduled : l.scheduled = retries past
  /-- Any other close changes nothing but that there is no connection. -/
  unwanted : l.wanted = false → ∀ policy fraction,
    l.closed policy fraction = (.unwanted, { l with connected := false })
  /-- A stop says whether a connection was wanted; a second one changes nothing. -/
  stops : l.stop.1 = l.wanted ∧ l.stop.2.stop = (false, l.stop.2)
  /-- A run that began before a stop is never again the one under way. -/
  stale : ∀ before stopped later run, past = before ++ .stopped stopped :: later →
    .began run ∈ before → l.isCurrent run = false
  /-- Nor is it in 64 bits, with fewer beginnings than these can tell apart. -/
  stale64 : runs past < UInt64.size → ∀ before stopped later run,
    past = before ++ .stopped stopped :: later → .began run ∈ before → l.isCurrent64 run = false
  /-- After fewer transitions than a word of 64 bits can count, the counters fit their words. -/
  fits : past.length < UInt64.size →
    l.attempt < UInt32.size ∧ l.scheduled < UInt64.size ∧ l.run < UInt64.size

/-- A stop says whether a connection was wanted, and leaves none to stop. -/
theorem stop_stop (l : Link) : l.stop.1 = l.wanted ∧ l.stop.2.stop = (false, l.stop.2) := by
  cases wanted : l.wanted <;> simp [stop, wanted]

/-- Where the counts are right, the book is. -/
theorem Counted.kept {l : Link} {past : List Event} (counted : Counted l past) : Kept l past where
  apart := by
    rintro ⟨connected, armed⟩
    rw [counted.apart connected] at armed
    cases armed
  wanted := counted.wanted
  begins := by cases wanted : l.wanted <;> simp [start?, wanted]
  anew := by
    intro l' begun
    unfold start? at begun
    split at begun
    · cases begun
    · cases begun
      exact ⟨rfl, rfl, rfl, rfl, rfl, congrArg Nat.succ counted.run⟩
  closes := by
    intro wanted policy fraction
    have attempt : l.failed.attempt = min (failuresInARow past + 1) maxAttempt := by
      show min (l.attempt + 1) maxAttempt = _
      rw [counted.attempt]
      omega
    rw [closed_of_wanted wanted, attempt]
    cases policy.delay? (min (failuresInARow past + 1) maxAttempt) fraction with
    | some delay =>
      refine ⟨rfl, ?_⟩
      intro returned armed
      cases armed
      rfl
    | none => exact ⟨rfl, nofun⟩
  scheduled := counted.scheduled
  unwanted := closed_of_unwanted
  stops := stop_stop l
  stale := by
    intro before stopped later run split begun
    cases wanted : l.wanted with
    | false => simp [isCurrent, wanted]
    | true =>
      have lt : run < l.run := counted.lt_of_stopped split begun wanted
      simp [isCurrent, wanted]
      omega
  stale64 := by
    intro few before stopped later run split begun
    cases wanted : l.wanted with
    | false => simp [isCurrent64, wanted]
    | true =>
      have lt : run < l.run := counted.lt_of_stopped split begun wanted
      have bound : l.run < UInt64.size := by rw [counted.run]; exact few
      -- Below the bound a number is read back from its word.
      have apart : UInt64.ofNat l.run ≠ UInt64.ofNat run := by
        intro eq
        have same := congrArg UInt64.toNat eq
        rw [UInt64.toNat_ofNat_of_lt' bound, UInt64.toNat_ofNat_of_lt' (by omega)] at same
        omega
      simp [isCurrent64, wanted, apart]
  fits := by
    intro short
    have retried : retries past ≤ past.length :=
      List.countP_le_length.trans (List.rtakeWhile_suffix _ past).length_le
    have begun : runs past ≤ past.length := List.countP_le_length
    rw [counted.attempt, counted.scheduled, counted.run]
    refine ⟨?_, by omega, by omega⟩
    show min (failuresInARow past) maxAttempt < 4294967296
    rw [maxAttempt]
    omega

/-- **After any sequence of transitions the book is right.** -/
theorem kept_of_history (ts : List Transition) : Kept (idle.after ts) (idle.history ts) :=
  (Counted.of_idle.history ts).kept

/-- Three failures, a stop and another beginning: the delay doubles twice and then starts again, and
the first run is no longer the one under way. -/
theorem kept_of_history_restarted :
    let share := Binary64.zero false
    let failing : List Transition :=
      [.start, .closed .standard share, .closed .standard share, .closed .standard share]
    let l := idle.after (failing ++ [.stop, .start])
    idle.history failing = [.began 1, .closed (.armed (.ofSeconds 1)),
        .closed (.armed (.ofSeconds 2)), .closed (.armed (.ofSeconds 4))] ∧
      (l.closed .standard share).1 = .armed (.ofSeconds 1) ∧
      l.isCurrent 1 = false ∧ l.isCurrent64 1 = false ∧ l.isCurrent 2 = true := by
  intro share failing l
  have failed : idle.history failing = [.began 1, .closed (.armed (.ofSeconds 1)),
      .closed (.armed (.ofSeconds 2)), .closed (.armed (.ofSeconds 4))] := by decide +kernel
  have past : idle.history (failing ++ [.stop, .start]) =
      idle.history failing ++ .stopped true :: [.began 2] := by decide +kernel
  have begun : Event.began 1 ∈ idle.history failing := by
    rw [failed]
    exact List.mem_cons_self
  have few : runs (idle.history (failing ++ [.stop, .start])) < UInt64.size := by decide +kernel
  have wanted : l.wanted = true := by decide +kernel
  have kept : Kept l _ := kept_of_history (failing ++ [.stop, .start])
  refine ⟨failed, ?_, kept.stale _ _ _ _ past begun, kept.stale64 few _ _ _ _ past begun,
    by decide +kernel⟩
  rw [(kept.closes wanted .standard share).1]
  decide +kernel

end Link

end VoiceTicket
