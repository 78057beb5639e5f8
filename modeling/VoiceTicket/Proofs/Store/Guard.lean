/-
  What stands in the way of an operation, and what the subscribers hear of it.

  1. **Data** — `Operation.obstacle?` is the reason for which an operation is rejected, read off
     the snapshot.  `Store.Told`: the subscribers have been told of a change since.

  2. **Specification** — `perform_guarded`: an operation is rejected exactly if there is an
     obstacle, and then the store stays as it is; there is no change that the subscribers are not
     told of; a label or an indicator that is set is told exactly if it changes.

  3. **Crux** — there are two ways only to stay silent: to be rejected, and to set what is set
     already (`perform_cases`).  Both give back the store that they were given, so that neither
     half a change nor a silent one is left behind.
-/
import VoiceTicket.Store

namespace VoiceTicket

theorem Status.canStart_iff (s : Status) :
    s.canStart = true ↔ s = .idle ∨ s = .done ∨ s = .error := by
  cases s <;> decide

theorem Status.canStop_iff (s : Status) : s.canStop = true ↔ s = .recording := by
  cases s <;> decide

namespace Store

/-! ## Rejected operations -/

/-- What stands in the way of an operation: a job that is under way, a recording that is not, a
session that nobody has opened. -/
def Operation.obstacle? (s : Snapshot) : Operation → Option Refusal
  | .startRecording _ | .startTextJob .. =>
    if s.status = .idle ∨ s.status = .done ∨ s.status = .error then none else some (.busy s.status)
  | .stopRecording => if s.status = .recording then none else some .notRecording
  | .takeSession => if s.clarification.current = none then some .noClarification else none
  | .setTranscription _ | .fold _ | .note _ | .fail _ | .reset | .receive _ => none

section
variable {s : Store} {op : Operation} {refusal : Refusal} {job text : String} {live : Session}

/-- An operation that is rejected gives back the store that it was given. -/
theorem perform_of_obstacle (blocked : op.obstacle? s.snapshot = some refusal) :
    s.perform op = (.rejected refusal, s) := by
  cases op with
  | startRecording | startTextJob =>
    simp only [Operation.obstacle?, ← Status.canStart_iff] at blocked
    split at blocked
    · cases blocked
    · next busy =>
      cases blocked
      simp only [perform, startRecording, startTextJob, beginJob, if_neg busy, Except.map, settle]
  | stopRecording =>
    simp only [Operation.obstacle?, ← Status.canStop_iff] at blocked
    split at blocked
    · cases blocked
    · next idle =>
      cases blocked
      simp only [perform, stopRecording, if_neg idle, settle]
  | takeSession =>
    simp only [Operation.obstacle?] at blocked
    split at blocked
    · next nobody =>
      cases blocked
      simp only [perform, takeSession, nobody]
    · cases blocked
  | setTranscription | fold | note | fail | reset | receive => cases blocked

/-! ## Accepted operations -/

theorem canStart_of_free (free : (Operation.startRecording job).obstacle? s.snapshot = none) :
    s.snapshot.status.canStart = true := by
  simp only [Operation.obstacle?, ← Status.canStart_iff] at free
  split at free
  · assumption
  · cases free

theorem perform_startRecording
    (free : (Operation.startRecording job).obstacle? s.snapshot = none) :
    s.perform (.startRecording job) =
      (.started job, s.update (·.beginJob job .recording "Recording…")) := by
  simp only [perform, startRecording, beginJob, if_pos (canStart_of_free free), settle]

theorem perform_startTextJob
    (free : (Operation.startTextJob job text).obstacle? s.snapshot = none) :
    s.perform (.startTextJob job text) =
      (.started job,
        (s.update (·.beginJob job .processing "Submitting…")).setTranscription text) := by
  have free : (Operation.startRecording job).obstacle? s.snapshot = none := free
  simp only [perform, startTextJob, beginJob, if_pos (canStart_of_free free), Except.map, settle]

theorem perform_stopRecording (free : Operation.stopRecording.obstacle? s.snapshot = none) :
    s.perform .stopRecording =
      (.accepted, s.update fun x =>
        { x with status := .processing, label := some "Uploading audio…" }.note .info
          "Recording stopped") := by
  simp only [Operation.obstacle?, ← Status.canStop_iff] at free
  split at free
  · next recording => simp only [perform, stopRecording, if_pos recording, settle]
  · cases free

theorem perform_takeSession (current : s.snapshot.clarification.current = some live) :
    s.perform .takeSession =
      (.session live, s.update fun x =>
        { x.endSession with
          status := .processing, label := some "Re-extracting intent…" }.note .info
          ("Answered clarification round " ++ toString live.round.toNat ++ " for session "
            ++ live.id)) := by
  simp only [perform, takeSession, current]

theorem exists_live_of_free (free : Operation.takeSession.obstacle? s.snapshot = none) :
    ∃ live, s.snapshot.clarification.current = some live := by
  simp only [Operation.obstacle?] at free
  split at free
  · cases free
  · next somebody => exact Option.ne_none_iff_exists'.1 somebody

end

/-- An operation is rejected exactly if something stands in its way. -/
theorem rejected_iff (s : Store) (op : Operation) (refusal : Refusal) :
    (s.perform op).1 = .rejected refusal ↔ op.obstacle? s.snapshot = some refusal := by
  constructor
  · intro rejected
    cases blocked : op.obstacle? s.snapshot with
    | some other =>
      rw [perform_of_obstacle blocked] at rejected
      cases rejected
      rfl
    | none =>
      cases op with
      | startRecording =>
        rw [perform_startRecording blocked] at rejected
        cases rejected
      | startTextJob =>
        rw [perform_startTextJob blocked] at rejected
        cases rejected
      | stopRecording =>
        rw [perform_stopRecording blocked] at rejected
        cases rejected
      | takeSession =>
        obtain ⟨live, current⟩ := exists_live_of_free blocked
        rw [perform_takeSession current] at rejected
        cases rejected
      | setTranscription | fold | note | fail | reset | receive => cases rejected
  · intro blocked
    rw [perform_of_obstacle blocked]

/-! ## Subscribers -/

/-- The subscribers have been told of a change since. -/
def Told (s s' : Store) : Prop := s.version < s'.version

/-- The operation sets a label or the indicator. -/
def Operation.isSetting : Operation → Bool
  | .receive (.label _) | .receive (.connected _) => true
  | _ => false

/-- The operation sets a label or the indicator to what it is already. -/
def Operation.repeats (s : Snapshot) : Operation → Bool
  | .receive (.label label) => decide (s.label = label)
  | .receive (.connected connected) => decide (s.connected = connected)
  | _ => false

theorem not_told_self (s : Store) : ¬ s.Told s := Nat.lt_irrefl _

theorem told_update (s : Store) (f : Snapshot → Snapshot) : s.Told (s.update f) :=
  Nat.lt_succ_self _

section
variable {s : Store} {op : Operation}

theorem perform_of_repeats (same : op.repeats s.snapshot = true) : (s.perform op).2 = s := by
  cases op with
  | receive signal =>
    cases signal with
    | label label => exact if_pos (of_decide_eq_true same)
    | connected connected => exact if_pos (of_decide_eq_true same)
    | log | status | clarification | loop => cases same
  | startRecording | stopRecording | startTextJob | setTranscription | takeSession | fold | note
  | fail | reset => cases same

theorem isSetting_of_repeats (same : op.repeats s.snapshot = true) : op.isSetting = true := by
  cases op with
  | receive signal =>
    cases signal with
    | label | connected => rfl
    | log | status | clarification | loop => cases same
  | startRecording | stopRecording | startTextJob | setTranscription | takeSession | fold | note
  | fail | reset => cases same

theorem told_of_free (free : op.obstacle? s.snapshot = none)
    (fresh : op.repeats s.snapshot = false) : s.Told (s.perform op).2 := by
  cases op with
  | startRecording =>
    rw [perform_startRecording free]
    exact told_update s _
  | startTextJob =>
    -- They are told of both steps.
    rw [perform_startTextJob free]
    exact Nat.lt_trans (told_update s _) (told_update _ _)
  | stopRecording =>
    rw [perform_stopRecording free]
    exact told_update s _
  | takeSession =>
    obtain ⟨live, current⟩ := exists_live_of_free free
    rw [perform_takeSession current]
    exact told_update s _
  | receive signal =>
    cases signal with
    | label label =>
      have changes : ¬ s.snapshot.label = label := of_decide_eq_false fresh
      simp only [perform, receive, setLabel, if_neg changes]
      exact told_update s _
    | connected connected =>
      have changes : ¬ s.snapshot.connected = connected := of_decide_eq_false fresh
      simp only [perform, receive, setConnected, if_neg changes]
      exact told_update s _
    | log | status | clarification | loop => exact told_update s _
  | setTranscription | fold | note | fail | reset => exact told_update s _

end

/-- **All that an operation can come to**: it is rejected, or it repeats what is set, or the
subscribers are told. -/
theorem perform_cases (s : Store) (op : Operation) :
    (∃ refusal, op.obstacle? s.snapshot = some refusal ∧ s.perform op = (.rejected refusal, s)) ∨
      (op.obstacle? s.snapshot = none ∧ op.repeats s.snapshot = true ∧ (s.perform op).2 = s) ∨
      (op.obstacle? s.snapshot = none ∧ op.repeats s.snapshot = false ∧
        s.Told (s.perform op).2) := by
  cases blocked : op.obstacle? s.snapshot with
  | some refusal => exact .inl ⟨refusal, rfl, perform_of_obstacle blocked⟩
  | none =>
    cases same : op.repeats s.snapshot with
    | true => exact .inr (.inl ⟨rfl, rfl, perform_of_repeats same⟩)
    | false => exact .inr (.inr ⟨rfl, rfl, told_of_free blocked same⟩)

/-- What is set to something else has changed. -/
theorem snapshot_ne_of_setting {s : Store} {op : Operation} (setting : op.isSetting = true)
    (fresh : op.repeats s.snapshot = false) : (s.perform op).2.snapshot ≠ s.snapshot := by
  intro same
  cases op with
  | receive signal =>
    cases signal with
    | label label =>
      have changes : ¬ s.snapshot.label = label := of_decide_eq_false fresh
      simp only [perform, receive, setLabel, if_neg changes] at same
      exact changes (congrArg Snapshot.label same).symm
    | connected connected =>
      have changes : ¬ s.snapshot.connected = connected := of_decide_eq_false fresh
      simp only [perform, receive, setConnected, if_neg changes] at same
      exact changes (congrArg Snapshot.connected same).symm
    | log | status | clarification | loop => cases setting
  | startRecording | stopRecording | startTextJob | setTranscription | takeSession | fold | note
  | fail | reset => cases setting

/-- **Nothing half done, and nothing in silence.**  An operation is rejected exactly if there is an
obstacle, and then the store stays as it is.  Whenever the snapshot changes the subscribers are
told; of a label or an indicator that is set they are told exactly if it changes, and of everything
else that is not rejected they are told in any case. -/
theorem perform_guarded (s : Store) (op : Operation) :
    (∀ refusal, (s.perform op).1 = .rejected refusal ↔
        op.obstacle? s.snapshot = some refusal) ∧
      (op.obstacle? s.snapshot ≠ none →
        (s.perform op).2.snapshot = s.snapshot ∧ ¬ s.Told (s.perform op).2) ∧
      ((s.perform op).2.snapshot ≠ s.snapshot → s.Told (s.perform op).2) ∧
      (op.isSetting = true →
        (s.Told (s.perform op).2 ↔ (s.perform op).2.snapshot ≠ s.snapshot)) ∧
      (op.isSetting = false →
        (s.Told (s.perform op).2 ↔ op.obstacle? s.snapshot = none)) := by
  refine ⟨rejected_iff s op, ?_⟩
  rcases perform_cases s op with ⟨refusal, blocked, rejected⟩ | ⟨free, same, kept⟩ |
    ⟨free, fresh, told⟩
  · rw [rejected, blocked]
    have silent : ¬ s.Told s := not_told_self s
    refine ⟨fun _ => ⟨rfl, silent⟩, fun changed => absurd rfl changed, fun _ => ?_, fun _ => ?_⟩
    · exact iff_of_false silent (not_not_intro rfl)
    · exact iff_of_false silent (fun free => nomatch free)
  · rw [kept, free]
    have silent : ¬ s.Told s := not_told_self s
    refine ⟨fun blocked => absurd rfl blocked, fun changed => absurd rfl changed, fun _ => ?_,
      fun plain => ?_⟩
    · exact iff_of_false silent (not_not_intro rfl)
    · rw [isSetting_of_repeats same] at plain
      cases plain
  · rw [free]
    refine ⟨fun blocked => absurd rfl blocked, fun _ => told, fun setting => ?_, fun _ => ?_⟩
    · exact iff_of_true told (snapshot_ne_of_setting setting fresh)
    · exact iff_of_true told rfl

end Store

end VoiceTicket
