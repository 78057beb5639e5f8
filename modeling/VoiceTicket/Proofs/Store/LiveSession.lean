/-
  Which session is live.

  1. **Data** — a run of operations is read by position.  `openedAt ops n` is the session that the
     n-th operation makes the live one, `endsAt ops n` says that the n-th operation puts an end to
     the live one.  `Lasts ops n m session`: the session was opened by the n-th operation, and no
     operation between that and the m-th has opened or ended one.

  2. **Specification** — `sessions_of_run`: the live session is the one that was opened last and
     has lasted since, and that is the one which is taken; no opening is taken twice; an id is not
     blank; the rounds of an id that stays live never go down; a session that is refused makes an
     entry and does nothing else.

  3. **Crux** — one equation says what any operation makes of the live session
     (`current_perform`).  Read by position (`liveAt_succ`) it links the tracker to the whole run
     so far (`liveAt_eq_some_iff`), by induction on the position.
-/
import VoiceTicket.Proofs.Store.Frame

namespace VoiceTicket

namespace Snapshot

/-- The session may become the live one: it has an id, and the live one is no later round of it. -/
def admits (s : Snapshot) (session : Session) : Bool :=
  !Text.isBlankText session.id &&
    s.clarification.current.all fun live =>
      decide (live.id ≠ session.id) || decide (live.round ≤ session.round)

theorem refusal?_eq_none_iff (s : Snapshot) (session : Session) :
    s.clarification.refusal? session = none ↔ s.admits session = true := by
  unfold Tracker.refusal? admits
  cases Text.isBlankText session.id with
  | true => simp
  | false =>
    cases s.clarification.current with
    | none => simp
    | some live =>
      by_cases same : live.id = session.id
      · simp [same]
      · simp [same]

end Snapshot

namespace Store

/-- The session that an operation puts forward. -/
def Operation.session? : Operation → Option Session
  | .fold (.clarification session _) | .receive (.clarification session) => some session
  | _ => none

/-- The session that an operation makes the live one. -/
def Operation.opened? (s : Snapshot) (op : Operation) : Option Session :=
  op.session?.filter s.admits

/-- The operation puts an end to the session that is live, if one is: it takes it, begins a job, or
ends one. -/
def Operation.ends (s : Snapshot) : Operation → Bool
  | .startRecording _ | .startTextJob .. => s.status.canStart
  | .takeSession | .fold (.ticket ..) | .fail _ | .reset => true
  | .receive (.status status) => status.isTerminal
  | _ => false

/-! ## One operation -/

theorem current_openSession (s : Snapshot) (session : Session) :
    (s.openSession session).clarification.current =
      (Option.filter s.admits (some session)).or s.clarification.current := by
  cases verdict : s.clarification.refusal? session with
  | some refusal =>
    have refused : ¬ s.admits session = true := by
      rw [← s.refusal?_eq_none_iff, verdict]
      exact nofun
    rw [Snapshot.openSession_of_refused verdict, Option.filter_some, if_neg refused]
    rfl
  | none =>
    have admitted := (s.refusal?_eq_none_iff session).1 verdict
    rw [Snapshot.openSession_of_admitted verdict, Option.filter_some, if_pos admitted]
    rfl

/-- What is rejected neither ends nor opens a session. -/
theorem kept_of_obstacle {s : Snapshot} {op : Operation} {refusal : Refusal}
    (blocked : op.obstacle? s = some refusal) :
    (if op.ends s then none else (op.opened? s).or s.clarification.current) =
      s.clarification.current := by
  cases op with
  | startRecording | startTextJob =>
    have busy : ¬ s.status.canStart = true := by
      rw [Status.canStart_iff]
      intro free
      simp only [Operation.obstacle?, if_pos free] at blocked
      cases blocked
    rw [Operation.ends, if_neg busy]
    rfl
  | stopRecording => rfl
  | takeSession =>
    -- A take that is rejected ends nothing, since nothing is live.
    simp only [Operation.obstacle?] at blocked
    split at blocked
    · next nobody => rw [nobody]; rfl
    · cases blocked
  | setTranscription | fold | note | fail | reset | receive => cases blocked

/-- **One operation.**  It ends the live session, or puts another one in its place, or leaves it. -/
theorem current_perform (s : Store) (op : Operation) :
    (s.perform op).2.snapshot.clarification.current =
      if op.ends s.snapshot then none
      else (op.opened? s.snapshot).or s.snapshot.clarification.current := by
  cases blocked : op.obstacle? s.snapshot with
  | some refusal =>
    rw [perform_of_obstacle blocked, kept_of_obstacle blocked]
  | none =>
    cases op with
    | startRecording =>
      rw [perform_startRecording blocked, Operation.ends, if_pos (canStart_of_free blocked)]
      rfl
    | startTextJob job =>
      have free : (Operation.startRecording job).obstacle? s.snapshot = none := blocked
      rw [perform_startTextJob blocked, Operation.ends, if_pos (canStart_of_free free)]
      rfl
    | stopRecording =>
      rw [perform_stopRecording blocked]
      rfl
    | takeSession =>
      obtain ⟨live, current⟩ := exists_live_of_free blocked
      rw [perform_takeSession current]
      rfl
    | fold outcome =>
      cases outcome with
      | ticket | transcription => rfl
      | clarification session =>
        simp only [perform, fold, update, Snapshot.fold]
        exact current_openSession s.snapshot session
    | receive signal =>
      cases signal with
      | status status =>
        have ends : Operation.ends s.snapshot (.receive (.status status)) = status.isTerminal := rfl
        rw [ends]
        simp only [perform, receive, setStatus, update]
        split <;> rfl
      | label label =>
        simp only [perform, receive, setLabel]
        split <;> rfl
      | connected connected =>
        simp only [perform, receive, setConnected]
        split <;> rfl
      | clarification session =>
        simp only [perform, receive, update]
        exact current_openSession s.snapshot session
      | log | loop => rfl
    | setTranscription | note | fail | reset => rfl

/-- Sessions are put forward by the outcome of a job and by the channel, and in the same way. -/
theorem perform_of_session? {op : Operation} {session : Session}
    (offered : op.session? = some session) (s : Store) :
    op.ends s.snapshot = false ∧ (s.perform op).2 = s.update (·.openSession session) := by
  cases op with
  | fold outcome =>
    cases outcome with
    | clarification =>
      cases offered
      exact ⟨rfl, rfl⟩
    | ticket | transcription => cases offered
  | receive signal =>
    cases signal with
    | clarification =>
      cases offered
      exact ⟨rfl, rfl⟩
    | log | status | label | connected | loop => cases offered
  | startRecording | stopRecording | startTextJob | setTranscription | takeSession | note | fail
  | reset => cases offered

/-! ## A run, by position -/

/-- What the store shows before the n-th operation of a run. -/
def shownAt (ops : List Operation) (n : Nat) : Snapshot :=
  (initial.performAll (ops.take n)).snapshot

/-- The session that is live before the n-th operation of a run. -/
def liveAt (ops : List Operation) (n : Nat) : Option Session :=
  (shownAt ops n).clarification.current

/-- The session that the n-th operation of a run makes the live one. -/
def openedAt (ops : List Operation) (n : Nat) : Option Session :=
  ops[n]?.bind fun op => op.opened? (shownAt ops n)

/-- The n-th operation of a run puts an end to the live session. -/
def endsAt (ops : List Operation) (n : Nat) : Bool :=
  ops[n]?.any fun op => op.ends (shownAt ops n)

/-- The n-th operation of a run is handed the session, to answer it. -/
def Takes (ops : List Operation) (n : Nat) (session : Session) : Prop :=
  ops[n]? = some .takeSession ∧
    ((initial.performAll (ops.take n)).perform .takeSession).1 = .session session

/-- The n-th operation of a run has opened the session, and no operation between that and the m-th
has opened or ended one. -/
structure Lasts (ops : List Operation) (n m : Nat) (session : Session) : Prop where
  opened : openedAt ops n = some session
  before : n < m
  since : ∀ k, n < k → k < m → openedAt ops k = none ∧ endsAt ops k = false

/-- A session with the id is live all the way from before the n-th operation of a run to before the
m-th. -/
def StaysLive (ops : List Operation) (n m : Nat) (id : String) : Prop :=
  n ≤ m ∧ ∀ k, n ≤ k → k ≤ m → ∃ live, liveAt ops k = some live ∧ live.id = id

section
variable {ops : List Operation} {n m : Nat} {session live : Session} {id : String}

theorem liveAt_succ (ops : List Operation) (n : Nat) :
    liveAt ops (n + 1) =
      if endsAt ops n then none else (openedAt ops n).or (liveAt ops n) := by
  rw [liveAt, shownAt, List.take_add_one, performAll_append, endsAt, openedAt]
  cases ops[n]? with
  | none => rfl
  | some op => exact current_perform _ op

/-- What opens a session does not end one. -/
theorem endsAt_of_openedAt (opened : openedAt ops n = some session) : endsAt ops n = false := by
  obtain ⟨op, here, opens⟩ := Option.bind_eq_some_iff.1 opened
  have offered : op.session? = some session := (Option.filter_eq_some_iff.1 opens).1
  rw [endsAt, here]
  exact (perform_of_session? offered (initial.performAll (ops.take n))).1

/-- **What lasts one operation longer** was opened by that operation, or lasted before and was
neither replaced nor ended by it. -/
theorem lasts_succ_iff :
    Lasts ops n (m + 1) session ↔
      (n = m ∧ openedAt ops m = some session) ∨
        (Lasts ops n m session ∧ openedAt ops m = none ∧ endsAt ops m = false) := by
  constructor
  · intro lasts
    rcases Nat.lt_succ_iff_lt_or_eq.1 lasts.before with earlier | rfl
    · have unreplaced := lasts.since m earlier (Nat.lt_succ_self m)
      refine .inr ⟨⟨lasts.opened, earlier, fun k after within => ?_⟩, unreplaced⟩
      exact lasts.since k after (by omega)
    · exact .inl ⟨rfl, lasts.opened⟩
  · rintro (⟨rfl, opened⟩ | ⟨lasts, unopened, unended⟩)
    · exact ⟨opened, by omega, fun k after within => absurd after (by omega)⟩
    · refine ⟨lasts.opened, Nat.lt_succ_of_lt lasts.before, fun k after within => ?_⟩
      rcases Nat.lt_succ_iff_lt_or_eq.1 within with earlier | rfl
      · exact lasts.since k after earlier
      · exact ⟨unopened, unended⟩

/-- **The live session** is the one that was opened last and has lasted since. -/
theorem liveAt_eq_some_iff : liveAt ops m = some session ↔ ∃ n, Lasts ops n m session := by
  induction m with
  | zero =>
    constructor
    · intro here
      cases here
    · rintro ⟨n, lasts⟩
      exact absurd lasts.before (Nat.not_lt_zero n)
  | succ m ih =>
    rw [liveAt_succ]
    simp only [lasts_succ_iff]
    cases opened : openedAt ops m with
    | some other =>
      -- It takes the place of whatever has lasted until then.
      rw [endsAt_of_openedAt opened]
      simp
    | none =>
      cases endsAt ops m with
      | true => simp
      | false => simp [ih]

/-! ## What follows for a run -/

theorem liveAt_of_takes (takes : Takes ops m session) : liveAt ops m = some session := by
  obtain ⟨-, answered⟩ := takes
  cases current : (initial.performAll (ops.take m)).snapshot.clarification.current with
  | none =>
    have blocked : Operation.takeSession.obstacle?
        (initial.performAll (ops.take m)).snapshot = some .noClarification := if_pos current
    rw [perform_of_obstacle blocked] at answered
    cases answered
  | some live =>
    rw [perform_takeSession current] at answered
    cases answered
    exact current

/-- What is taken has ended. -/
theorem Takes.endsAt (takes : Takes ops m session) : endsAt ops m = true := by
  rw [Store.endsAt, takes.1]
  rfl

/-- An opening that lasts has not been taken before. -/
theorem Lasts.le_of_takes (lasts : Lasts ops n m live) {m' : Nat} (takes : Takes ops m' session)
    (later : n < m') : m ≤ m' := by
  by_contra earlier
  have unended := (lasts.since m' later (by omega)).2
  rw [takes.endsAt] at unended
  cases unended

/-- A session that is live has been admitted. -/
theorem Lasts.admitted (lasts : Lasts ops n m session) : (shownAt ops n).admits session = true := by
  obtain ⟨op, -, opens⟩ := Option.bind_eq_some_iff.1 lasts.opened
  exact (Option.filter_eq_some_iff.1 opens).2

theorem isBlankText_of_admits {s : Snapshot} (admitted : s.admits session = true) :
    Text.isBlankText session.id = false := by
  rw [Snapshot.admits, Bool.and_eq_true, Bool.not_eq_true'] at admitted
  exact admitted.1

theorem round_le_of_admits {s : Snapshot} (admitted : s.admits session = true)
    (current : s.clarification.current = some live) (same : live.id = session.id) :
    live.round ≤ session.round := by
  rw [Snapshot.admits, Bool.and_eq_true, current] at admitted
  simpa [same] using admitted.2

/-- One operation that keeps an id live does not take its round down. -/
theorem round_le_succ {live' : Session} (here : liveAt ops n = some live)
    (next : liveAt ops (n + 1) = some live') (same : live.id = live'.id) :
    live.round ≤ live'.round := by
  rw [liveAt_succ] at next
  split at next
  · cases next
  · cases opened : openedAt ops n with
    | none =>
      rw [opened, here] at next
      cases next
      exact UInt32.le_refl _
    | some session =>
      rw [opened] at next
      cases next
      obtain ⟨op, -, opens⟩ := Option.bind_eq_some_iff.1 opened
      exact round_le_of_admits (Option.filter_eq_some_iff.1 opens).2 here same

/-- While an id stays live its round does not go down. -/
theorem StaysLive.round_le {last : Session} (stays : StaysLive ops n m id)
    (first : liveAt ops n = some live) (final : liveAt ops m = some last) :
    live.round ≤ last.round := by
  obtain ⟨le, between⟩ := stays
  -- On the length of the stretch: its last operation keeps the id live, too.
  induction le generalizing last with
  | refl =>
    rw [first] at final
    cases final
    exact UInt32.le_refl _
  | @step m le ih =>
    obtain ⟨here, current, named⟩ := between m le (Nat.le_succ m)
    obtain ⟨_, current', named'⟩ := between (m + 1) (Nat.le_succ_of_le le) (Nat.le_refl _)
    rw [final] at current'
    cases current'
    have earlier := ih current fun k low high => between k low (Nat.le_succ_of_le high)
    exact UInt32.le_trans earlier (round_le_succ current final (named.trans named'.symm))

/-- A session that is refused makes an entry and does nothing else. -/
theorem perform_of_refused {s : Store} {op : Operation} (offered : op.session? = some session)
    (refused : s.snapshot.admits session = false) :
    ∃ refusal, s.snapshot.clarification.refusal? session = some refusal ∧
      (s.perform op).2.snapshot = s.snapshot.note .warn refusal.message := by
  cases verdict : s.snapshot.clarification.refusal? session with
  | none =>
    rw [(s.snapshot.refusal?_eq_none_iff session).1 verdict] at refused
    cases refused
  | some refusal =>
    have opened := Snapshot.openSession_of_refused verdict
    refine ⟨refusal, rfl, ?_⟩
    rw [(perform_of_session? offered s).2, update, opened]

theorem shownAt_succ {op : Operation} (here : ops[n]? = some op) :
    shownAt ops (n + 1) = ((initial.performAll (ops.take n)).perform op).2.snapshot := by
  rw [shownAt, List.take_add_one, performAll_append, here]
  rfl

end

/-- **From opening to taking.**  In any run the live session is the one that was opened last and has
been neither taken nor ended since, and it is that one which is taken; no opening is taken twice.
The live session has an id, and while one id stays live its round does not go down; a session that
is refused makes an entry and does nothing else. -/
theorem sessions_of_run (ops : List Operation) :
    (∀ m session, liveAt ops m = some session ↔ ∃ n, Lasts ops n m session) ∧
      (∀ m session, Takes ops m session → ∃ n, Lasts ops n m session) ∧
      (∀ n m m' session session', Takes ops m session → Lasts ops n m session →
        Takes ops m' session' → Lasts ops n m' session' → m = m') ∧
      (∀ m live, liveAt ops m = some live → Text.isBlankText live.id = false) ∧
      (∀ n m id first last, StaysLive ops n m id → liveAt ops n = some first →
        liveAt ops m = some last → first.round ≤ last.round) ∧
      (∀ n op session, ops[n]? = some op → op.session? = some session →
        (shownAt ops n).admits session = false →
        ∃ refusal, (shownAt ops n).clarification.refusal? session = some refusal ∧
          shownAt ops (n + 1) = (shownAt ops n).note .warn refusal.message) := by
  refine ⟨fun m session => liveAt_eq_some_iff, ?_, ?_, ?_, ?_, ?_⟩
  · intro m session takes
    exact liveAt_eq_some_iff.1 (liveAt_of_takes takes)
  · intro n m m' session session' takes lasts takes' lasts'
    exact Nat.le_antisymm (lasts.le_of_takes takes' lasts'.before)
      (lasts'.le_of_takes takes lasts.before)
  · intro m live current
    obtain ⟨n, lasts⟩ := liveAt_eq_some_iff.1 current
    exact isBlankText_of_admits lasts.admitted
  · intro n m id first last stays current final
    exact stays.round_le current final
  · intro n op session here offered refused
    rw [shownAt_succ here]
    exact perform_of_refused offered refused

/-- A later round comes in the place of the first, an earlier one is refused, and the later one is
handed over. -/
theorem sessions_of_run_answered :
    let first : Session := ⟨"s1", ["Which project?"], "Fix login bug", 1⟩
    let second : Session := ⟨"s1", ["Which board?"], "", 2⟩
    let ops : List Operation := [.fold (.clarification first none),
      .receive (.clarification second), .receive (.clarification first), .takeSession]
    Takes ops 3 second ∧ Lasts ops 1 3 second ∧ ∃ n, Lasts ops n 3 second := by
  intro first second ops
  have takes : Takes ops 3 second := ⟨rfl, by decide +kernel⟩
  have opened : openedAt ops 1 = some second := by decide +kernel
  refine ⟨takes, ⟨opened, by omega, fun k after within => ?_⟩, ?_⟩
  · obtain rfl : k = 2 := by omega
    decide +kernel
  · exact (sessions_of_run ops).2.1 3 second takes

end Store

end VoiceTicket
