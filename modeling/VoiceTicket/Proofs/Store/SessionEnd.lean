/-
  When a session outlives its job.

  A job that is over has nothing left to clarify, so a terminal status ought to leave no session
  live.  Most of what sets such a status sees to that; a transcription that is folded in does not.

  1. **Data** — `Snapshot.Outlives s live`: the job is over and `live` is still the live session.

  2. **Specification** — `outlives_performAll_iff`: after a run of operations a session outlives its
     job exactly when it was live as a transcription was folded in, and every operation since has
     spared it (`Operation.spares`).

  3. **Crux** — the step (`outlives_perform_iff`) says both how the bad state comes about and what
     keeps it up, so the run is an induction over its last operation.
-/
import Mathlib.Data.List.Induction
import VoiceTicket.Store

namespace VoiceTicket

/-- The job is over, and the session is live all the same. -/
def Snapshot.Outlives (s : Snapshot) (live : Session) : Prop :=
  s.status.isTerminal = true ∧ s.clarification.current = some live

/-- A job that is over has no session. -/
def Snapshot.Settled (s : Snapshot) : Prop :=
  s.status.isTerminal = true → s.clarification.current = none

instance (s : Snapshot) : Decidable s.Settled := inferInstanceAs (Decidable (_ → _))

theorem Snapshot.not_settled_iff {s : Snapshot} : ¬ s.Settled ↔ ∃ live, s.Outlives live := by
  constructor
  · intro h
    cases hc : s.clarification.current with
    | none => exact absurd (fun _ => hc) h
    | some live =>
      cases ht : s.status.isTerminal with
      | true => exact ⟨live, ht, hc⟩
      | false => exact absurd (fun t => by rw [ht] at t; cases t) h
  · rintro ⟨live, ht, hc⟩ settled
    rw [settled ht] at hc
    cases hc

/-! ## What a terminal status allows -/

theorem Status.canStart_of_isTerminal {s : Status} (h : s.isTerminal = true) :
    s.canStart = true := by
  cases s <;> first | rfl | cases h

theorem Status.canStop_of_isTerminal {s : Status} (h : s.isTerminal = true) :
    s.canStop = false := by
  cases s <;> first | rfl | cases h

namespace Store

/-! ## The operations that matter -/

/-- A transcription is folded in. -/
def Operation.isTranscription : Operation → Bool
  | .fold (.transcription ..) => true
  | _ => false

/-- Once the job is over, the operation changes neither the status nor the live session: it touches
neither, or is rejected, or opens a session that the live one keeps out. -/
def Operation.spares (live : Session) : Operation → Bool
  | .fold (.clarification session _) | .receive (.clarification session) =>
    ((Tracker.mk (some live)).refusal? session).isSome
  | .stopRecording | .setTranscription _ | .note _ | .fold (.transcription ..) => true
  | .receive (.log ..) | .receive (.label _) | .receive (.connected _) | .receive (.loop _) => true
  | .receive (.status _) => false
  | .startRecording _ | .startTextJob .. | .takeSession | .fold (.ticket ..) => false
  | .fail _ | .reset => false

end Store

/-! ## One operation -/

theorem Snapshot.not_outlives_of_status {s : Snapshot} (h : s.status.isTerminal = false)
    (live : Session) : ¬ s.Outlives live := by
  rintro ⟨ht, _⟩
  rw [h] at ht
  cases ht

theorem Snapshot.not_outlives_of_current {s : Snapshot} (h : s.clarification.current = none)
    (live : Session) : ¬ s.Outlives live := by
  rintro ⟨_, hc⟩
  rw [h] at hc
  cases hc

/-- A job that is over does not stand in the way of the next one. -/
theorem Snapshot.Outlives.canStart {s : Snapshot} {live : Session} (h : s.Outlives live) :
    s.status.canStart = true :=
  Status.canStart_of_isTerminal h.1

/-- A session that is opened takes the status out of the terminal ones, unless it is refused. -/
theorem Snapshot.outlives_openSession_iff (s : Snapshot) (session live : Session) :
    (s.openSession session).Outlives live ↔
      s.Outlives live ∧ ((Tracker.mk (some live)).refusal? session).isSome = true := by
  have tracked (hc : s.clarification.current = some live) : s.clarification = ⟨some live⟩ := by
    rw [← hc]
  unfold openSession Tracker.accept
  cases hr : s.clarification.refusal? session with
  | none =>
    constructor
    · rintro ⟨ht, _⟩
      cases ht
    · rintro ⟨⟨_, hc⟩, refused⟩
      rw [← tracked hc, hr] at refused
      cases refused
  | some refusal =>
    constructor
    · intro h
      refine ⟨h, ?_⟩
      rw [← tracked h.2, hr]
      rfl
    · rintro ⟨h, _⟩
      exact h

namespace Store

section
variable {s : Store} {op : Operation} {live : Session}

/-- An operation that takes the status out of the terminal ones, or ends the session. -/
theorem outlives_perform_of_ended (after : ¬ (s.perform op).2.snapshot.Outlives live)
    (plain : op.isTranscription = false) (ends : op.spares live = false) :
    (s.perform op).2.snapshot.Outlives live ↔
      (op.isTranscription = true ∧ s.snapshot.clarification.current = some live) ∨
        (s.snapshot.Outlives live ∧ op.spares live = true) := by
  rw [plain, ends]
  simp [after]

/-- An operation that touches neither the status nor the session. -/
theorem outlives_perform_of_alike (status : (s.perform op).2.snapshot.status = s.snapshot.status)
    (tracker : (s.perform op).2.snapshot.clarification = s.snapshot.clarification)
    (plain : op.isTranscription = false) (spared : op.spares live = true) :
    (s.perform op).2.snapshot.Outlives live ↔
      (op.isTranscription = true ∧ s.snapshot.clarification.current = some live) ∨
        (s.snapshot.Outlives live ∧ op.spares live = true) := by
  rw [plain, spared, Snapshot.Outlives, status, tracker]
  simp [Snapshot.Outlives]

end

/-- **One operation.**  After it a session outlives its job exactly when a transcription was folded
in while the session was live, or it outlived its job before and has been spared. -/
theorem outlives_perform_iff (s : Store) (op : Operation) (live : Session) :
    (s.perform op).2.snapshot.Outlives live ↔
      (op.isTranscription = true ∧ s.snapshot.clarification.current = some live) ∨
        (s.snapshot.Outlives live ∧ op.spares live = true) := by
  cases op with
  | startRecording job =>
    refine outlives_perform_of_ended ?_ rfl rfl
    by_cases free : s.snapshot.status.canStart = true
    · apply Snapshot.not_outlives_of_status
      simp [perform, startRecording, beginJob, settle, free, update, Snapshot.beginJob,
        Snapshot.note, Status.isTerminal]
    · intro h
      simp only [perform, startRecording, beginJob, settle, if_neg free] at h
      exact free h.canStart
  | startTextJob job text =>
    refine outlives_perform_of_ended ?_ rfl rfl
    by_cases free : s.snapshot.status.canStart = true
    · apply Snapshot.not_outlives_of_status
      simp [perform, startTextJob, beginJob, settle, free, update, Except.map, setTranscription,
        Snapshot.beginJob, Snapshot.note, Status.isTerminal]
    · intro h
      simp only [perform, startTextJob, beginJob, settle, if_neg free, Except.map] at h
      exact free h.canStart
  | stopRecording =>
    by_cases recording : s.snapshot.status.canStop = true
    · have before : ¬ s.snapshot.Outlives live := by
        intro h
        rw [Status.canStop_of_isTerminal h.1] at recording
        cases recording
      have after : ¬ (s.perform .stopRecording).2.snapshot.Outlives live := by
        apply Snapshot.not_outlives_of_status
        simp [perform, stopRecording, settle, recording, update, Snapshot.note, Status.isTerminal]
      simp [before, after, Operation.isTranscription]
    · have same : (s.perform .stopRecording).2 = s := by
        simp only [perform, stopRecording, settle, if_neg recording]
      exact outlives_perform_of_alike (by rw [same]) (by rw [same]) rfl rfl
  | setTranscription text => exact outlives_perform_of_alike rfl rfl rfl rfl
  | takeSession =>
    refine outlives_perform_of_ended ?_ rfl rfl
    cases hc : s.snapshot.clarification.current with
    | none =>
      apply Snapshot.not_outlives_of_current
      simp only [perform, takeSession, hc]
    | some session =>
      apply Snapshot.not_outlives_of_status
      simp [perform, takeSession, hc, update, Snapshot.note, Status.isTerminal]
  | fold outcome =>
    cases outcome with
    | ticket key url summary transcribed =>
      exact outlives_perform_of_ended (Snapshot.not_outlives_of_current rfl live) rfl rfl
    | clarification session ambiguity =>
      simp only [perform, fold, update, Snapshot.fold]
      rw [Snapshot.outlives_openSession_iff]
      simp [Operation.isTranscription, Operation.spares]
    | transcription text language =>
      constructor
      · intro h
        exact Or.inl ⟨rfl, h.2⟩
      · rintro (⟨_, hc⟩ | ⟨⟨_, hc⟩, _⟩)
        · exact ⟨rfl, hc⟩
        · exact ⟨rfl, hc⟩
  | note message => exact outlives_perform_of_alike rfl rfl rfl rfl
  | fail message =>
    exact outlives_perform_of_ended (Snapshot.not_outlives_of_current rfl live) rfl rfl
  | reset => exact outlives_perform_of_ended (Snapshot.not_outlives_of_current rfl live) rfl rfl
  | receive signal =>
    cases signal with
    | log level message => exact outlives_perform_of_alike rfl rfl rfl rfl
    | status status =>
      refine outlives_perform_of_ended ?_ rfl rfl
      cases ht : status.isTerminal with
      | true =>
        apply Snapshot.not_outlives_of_current
        simp [perform, receive, setStatus, update, ht, Snapshot.endSession, Tracker.empty]
      | false =>
        apply Snapshot.not_outlives_of_status
        simp [perform, receive, setStatus, update, ht]
    | label label =>
      refine outlives_perform_of_alike ?_ ?_ rfl rfl
      · simp only [perform, receive, setLabel]
        split <;> rfl
      · simp only [perform, receive, setLabel]
        split <;> rfl
    | connected connected =>
      refine outlives_perform_of_alike ?_ ?_ rfl rfl
      · simp only [perform, receive, setConnected]
        split <;> rfl
      · simp only [perform, receive, setConnected]
        split <;> rfl
    | clarification session =>
      simp only [perform, receive, update]
      rw [Snapshot.outlives_openSession_iff]
      simp [Operation.isTranscription, Operation.spares]
    | loop event => exact outlives_perform_of_alike rfl rfl rfl rfl

/-! ## A run of operations -/

/-- What is spared by every operation of a run is spared by the run. -/
theorem Outlives.performAll {s : Store} {live : Session} (h : s.snapshot.Outlives live)
    {ops : List Operation} (spared : ∀ op ∈ ops, op.spares live = true) :
    (s.performAll ops).snapshot.Outlives live := by
  induction ops generalizing s with
  | nil => exact h
  | cons op ops ih =>
    rw [performAll_cons]
    refine ih ?_ fun op' mem => spared op' (List.mem_cons_of_mem _ mem)
    exact (outlives_perform_iff s op live).2 (Or.inr ⟨h, spared op List.mem_cons_self⟩)

/-- A session outlives its job after a run of operations exactly when it was live as a transcription
was folded in, and has been spared since. -/
theorem outlives_performAll_iff (ops : List Operation) (live : Session) :
    (initial.performAll ops).snapshot.Outlives live ↔
      ∃ before text language after,
        ops = before ++ .fold (.transcription text language) :: after ∧
        (initial.performAll before).snapshot.clarification.current = some live ∧
        ∀ op ∈ after, op.spares live = true := by
  constructor
  · -- Backwards through the run: the last operation has either begun it or spared it.
    induction ops using List.reverseRecOn with
    | nil =>
      rintro ⟨ht, _⟩
      cases ht
    | append_singleton ops op ih =>
      rw [performAll_concat, outlives_perform_iff]
      rintro (⟨folded, hc⟩ | ⟨h, spared⟩)
      · cases op with
        | fold outcome =>
          cases outcome with
          | transcription text language => exact ⟨ops, text, language, [], rfl, hc, by simp⟩
          | ticket | clarification => cases folded
        | _ => cases folded
      · obtain ⟨before, text, language, after, rfl, hc, rest⟩ := ih h
        refine ⟨before, text, language, after ++ [op], by simp, hc, ?_⟩
        intro op' mem
        rcases List.mem_append.1 mem with mem | mem
        · exact rest op' mem
        · rw [List.mem_singleton.1 mem]
          exact spared
  · rintro ⟨before, text, language, after, rfl, hc, spared⟩
    rw [performAll_append, performAll_cons]
    refine Outlives.performAll ?_ spared
    exact (outlives_perform_iff _ _ live).2 (Or.inl ⟨rfl, hc⟩)

/-- **When a job that is over has no session.**  A run of operations leaves it so unless somewhere
in the run a transcription was folded in while a session was live, and every operation since has
spared that session. -/
theorem settled_performAll_iff (ops : List Operation) :
    (initial.performAll ops).snapshot.Settled ↔
      ¬ ∃ before text language after live,
        ops = before ++ .fold (.transcription text language) :: after ∧
        (initial.performAll before).snapshot.clarification.current = some live ∧
        ∀ op ∈ after, op.spares live = true := by
  rw [← not_iff_not, not_not, Snapshot.not_settled_iff]
  constructor
  · rintro ⟨live, h⟩
    obtain ⟨before, text, language, after, split, hc, spared⟩ :=
      (outlives_performAll_iff ops live).1 h
    exact ⟨before, text, language, after, live, split, hc, spared⟩
  · rintro ⟨before, text, language, after, live, split, hc, spared⟩
    exact ⟨live, (outlives_performAll_iff ops live).2
      ⟨before, text, language, after, split, hc, spared⟩⟩

/-- A question that arrives while a recording is being uploaded is still live when the answer to the
upload is a bare transcription. -/
theorem not_settled_after_transcription :
    ¬ ∀ ops : List Operation, (initial.performAll ops).snapshot.Settled := by
  intro h
  have := h [.startRecording "job", .stopRecording,
    .receive (.clarification ⟨"s1", ["Which project?"], "Fix login bug", 1⟩),
    .fold (.transcription "fix the login bug" none)]
  revert this
  decide

end Store

end VoiceTicket
