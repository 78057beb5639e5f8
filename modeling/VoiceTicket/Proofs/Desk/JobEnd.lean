/-
  How a job ends.

  1. **Data** — a `Submission` is a command that sends something of a job to the server.
     `Submission.inFlight?` is the store while its call is under way, unless it is rejected.

  2. **Specification** — `Snapshot.Ends`: the command has returned, and the job is done, failed or
     in clarification, as the command says.  `ends_iff`: so it is, whatever the server answers, but
     for one kind of answer; that one leaves the job in process with nothing under way (`Stranded`).

  3. **Crux** — while a call is under way the job is in process, and of all that can be folded in
     only a round of clarification that the tracker refuses leaves the status alone.
-/
import VoiceTicket.Commands

namespace VoiceTicket

/-- A command that sends something of a job to the server. -/
inductive Submission where
  | text (job text : String)
  | answer (text : String)
  | recording (wav : List UInt8)
deriving DecidableEq, Repr

/-- Runs a command. -/
def Desk.submit (d : Desk) : Submission → Desk.Answer Outcome
  | .text job text => d.submitText job text
  | .answer text => d.answer text
  | .recording wav => d.upload wav

namespace Submission

/-- What a command is called when it fails. -/
def action : Submission → String
  | .text .. => "Pipeline run"
  | .answer _ => "Clarification"
  | .recording _ => "Audio upload"

/-- The store while the call of a command is under way, unless the command is rejected. -/
def inFlight? (s : Store) : Submission → Option Store
  | .text job given =>
    match Backend.requireText given with
    | .error _ => none
    | .ok trimmed => (s.startTextJob job trimmed).toOption
  | .answer given =>
    match Backend.requireText given with
    | .error _ => none
    | .ok _ => s.takeSession.toOption.map Prod.snd
  | .recording _ => s.stopRecording.toOption

/-- The session that is live while the call of a command is under way; a recording leaves it
alone. -/
def tracker (t : Tracker) : Submission → Tracker
  | .text .. | .answer _ => .empty
  | .recording _ => t

end Submission

namespace Desk

variable {d : Desk} {sub : Submission} {s : Store}

/-! ## Before the call -/

/-- A command is rejected and leaves everything alone, or it makes its call and folds the answer
in. -/
theorem submit_cases (d : Desk) (sub : Submission) :
    (sub.inFlight? d.store = none ∧ ∃ fault, d.submit sub = (.error fault, d)) ∨
      ∃ s answer wire, sub.inFlight? d.store = some s ∧
        d.submit sub = ({ d with store := s, wire } : Desk).settle sub.action answer := by
  cases sub with
  | text job given =>
    simp only [submit, submitText, Submission.inFlight?]
    cases Backend.requireText given with
    | error fault => exact Or.inl ⟨rfl, _, rfl⟩
    | ok trimmed =>
      dsimp only
      cases d.store.startTextJob job trimmed with
      | error r => exact Or.inl ⟨rfl, _, rfl⟩
      | ok s => exact Or.inr ⟨s, _, _, rfl, rfl⟩
  | answer given =>
    simp only [submit, answer, Submission.inFlight?]
    cases Backend.requireText given with
    | error fault => exact Or.inl ⟨rfl, _, rfl⟩
    | ok trimmed =>
      dsimp only
      cases d.store.takeSession with
      | error r => exact Or.inl ⟨rfl, _, rfl⟩
      | ok taken => exact Or.inr ⟨taken.2, _, _, rfl, rfl⟩
  | recording wav =>
    simp only [submit, upload, Submission.inFlight?]
    cases d.store.stopRecording with
    | error r => exact Or.inl ⟨rfl, _, rfl⟩
    | ok s => exact Or.inr ⟨s, _, _, rfl, rfl⟩

/-- A command that is rejected leaves everything alone. -/
theorem submit_of_rejected (rejected : sub.inFlight? d.store = none) :
    ∃ fault, d.submit sub = (.error fault, d) := by
  rcases submit_cases d sub with ⟨_, same⟩ | ⟨s, _, _, passed, _⟩
  · exact same
  · rw [rejected] at passed
    cases passed

theorem submit_of_inFlight (passed : sub.inFlight? d.store = some s) :
    ∃ answer wire,
      d.submit sub = ({ d with store := s, wire } : Desk).settle sub.action answer := by
  rcases submit_cases d sub with ⟨rejected, _⟩ | ⟨s', answer, wire, passed', same⟩
  · rw [rejected] at passed
    cases passed
  · rw [passed] at passed'
    cases passed'
    exact ⟨answer, wire, same⟩

/-- While a call is under way the job is in process. -/
theorem inFlight?_eq (passed : sub.inFlight? d.store = some s) :
    s.snapshot.status = .processing ∧
      s.snapshot.clarification = sub.tracker d.store.snapshot.clarification := by
  cases sub with
  | text job given =>
    simp only [Submission.inFlight?, Store.startTextJob, Store.beginJob] at passed
    split at passed
    · cases passed
    · split at passed
      · cases passed
        exact ⟨rfl, rfl⟩
      · cases passed
  | answer given =>
    simp only [Submission.inFlight?, Store.takeSession] at passed
    split at passed
    · cases passed
    · split at passed
      · cases passed
      · cases passed
        exact ⟨rfl, rfl⟩
  | recording wav =>
    simp only [Submission.inFlight?, Store.stopRecording] at passed
    split at passed
    · cases passed
      exact ⟨rfl, rfl⟩
    · cases passed

end Desk

/-! ## After the call -/

/-- A command has returned, and the job has come to an end, or to a round of clarification, as the
command says. -/
inductive Snapshot.Ends (s : Snapshot) (action : String) : Except Command.Fault Outcome → Prop where
  | done {outcome : Outcome} (status : s.status = .done) : Ends s action (.ok outcome)
  | clarifies {session : Session} {ambiguity : Option Binary64} (status : s.status = .clarifying)
      (live : s.clarification.current = some session) :
      Ends s action (.ok (.clarification session ambiguity))
  | fails {fault : Command.Fault} (status : s.status = .error) (label : s.label = none)
      (idle : s.clarification.current = none)
      (last : s.log.last? = some ⟨.error, action ++ " failed: " ++ fault.message, none⟩) :
      Ends s action (.error fault)

/-- A job that is in process has not come to an end. -/
theorem Snapshot.not_ends_of_processing {s : Snapshot} {action : String}
    {result : Except Command.Fault Outcome} (processing : s.status = .processing) :
    ¬ s.Ends action result := by
  intro ends
  cases ends with
  | done status | clarifies status | fails status =>
    rw [processing] at status
    cases status

/-- A command has returned a round of clarification that the tracker refuses. -/
def Tracker.Refuses (t : Tracker) (result : Except Command.Fault Outcome) : Prop :=
  ∃ session ambiguity, result = .ok (.clarification session ambiguity) ∧
    (t.refusal? session).isSome = true

theorem Tracker.isSome_refusal? (t : Tracker) (session : Session) :
    (t.refusal? session).isSome = true ↔
      Text.isBlankText session.id = true ∨
        ∃ live, t.current = some live ∧ live.id = session.id ∧ session.round < live.round := by
  unfold refusal?
  split
  · next blank => simp [blank]
  · next named =>
    cases t.current with
    | none => simp [named]
    | some live =>
      dsimp only
      split
      · next stale => simp [named, stale]
      · next fits => simp [named, fits]

namespace Desk

variable {d : Desk} {sub : Submission} {s : Store}

/-- What is folded in ends the job that was in process, unless it is refused. -/
theorem settle_ends (processing : d.store.snapshot.status = .processing) (action : String)
    (answer : Except Backend.Fault Outcome) :
    (d.store.snapshot.clarification.Refuses (d.settle action answer).1 ∧
        (d.settle action answer).2.store.snapshot.status = .processing) ∨
      (¬ d.store.snapshot.clarification.Refuses (d.settle action answer).1 ∧
        (d.settle action answer).2.store.snapshot.Ends action (d.settle action answer).1) := by
  cases answer with
  | error fault =>
    refine Or.inr ⟨?_, .fails rfl rfl rfl List.getLast?_concat⟩
    rintro ⟨_, _, same, _⟩
    cases same
  | ok outcome =>
    cases outcome with
    | ticket =>
      refine Or.inr ⟨?_, .done rfl⟩
      rintro ⟨_, _, same, _⟩
      cases same
    | transcription =>
      refine Or.inr ⟨?_, .done rfl⟩
      rintro ⟨_, _, same, _⟩
      cases same
    | clarification session ambiguity =>
      have folded : (d.settle action (.ok (.clarification session ambiguity))).2.store.snapshot
          = d.store.snapshot.openSession session := by
        simp only [settle, Store.fold, Store.update, Snapshot.fold]
      -- The one outcome that does not set the status itself.
      rw [folded]
      unfold Snapshot.openSession Tracker.accept
      cases refusal : d.store.snapshot.clarification.refusal? session with
      | some r => exact Or.inl ⟨⟨session, ambiguity, rfl, by rw [refusal]; rfl⟩, processing⟩
      | none =>
        refine Or.inr ⟨?_, .clarifies rfl rfl⟩
        rintro ⟨_, _, same, refused⟩
        cases same
        rw [refusal] at refused
        cases refused

/-- A command has returned a round of clarification that nobody can answer: it has no id, or it
comes after a recording and is one that the live session has behind it. -/
def Stranded (d : Desk) (sub : Submission) : Prop :=
  ∃ session ambiguity, (d.submit sub).1 = .ok (.clarification session ambiguity) ∧
    (Text.isBlankText session.id = true ∨
      ∃ wav live, sub = .recording wav ∧ d.store.snapshot.clarification.current = some live ∧
        live.id = session.id ∧ session.round < live.round)

theorem refuses_iff (passed : sub.inFlight? d.store = some s) :
    s.snapshot.clarification.Refuses (d.submit sub).1 ↔ d.Stranded sub := by
  rw [Tracker.Refuses, (inFlight?_eq passed).2]
  constructor
  · rintro ⟨session, ambiguity, returned, refused⟩
    refine ⟨session, ambiguity, returned, ?_⟩
    refine ((Tracker.isSome_refusal? _ session).1 refused).imp id ?_
    rintro ⟨live, current, stale⟩
    cases sub with
    -- A text and an answer have put an end to the session before the call.
    | text | answer => cases current
    | recording wav => exact ⟨wav, live, rfl, current, stale⟩
  · rintro ⟨session, ambiguity, returned, unanswerable⟩
    refine ⟨session, ambiguity, returned, (Tracker.isSome_refusal? _ session).2 ?_⟩
    refine unanswerable.imp id ?_
    rintro ⟨wav, live, rfl, current, stale⟩
    exact ⟨live, current, stale⟩

/-- **Every job comes to an end.**  Once a command that was not rejected has returned, the job is
done, failed or in clarification, as the command says, whatever the server has answered, unless that
is a round of clarification that nobody can answer; and then, and only then, the job is still in
process. -/
theorem ends_iff (passed : sub.inFlight? d.store = some s) :
    ((d.submit sub).2.store.snapshot.Ends sub.action (d.submit sub).1 ↔ ¬ d.Stranded sub) ∧
      ((d.submit sub).2.store.snapshot.status = .processing ↔ d.Stranded sub) := by
  rw [← refuses_iff passed]
  obtain ⟨processing, _⟩ := inFlight?_eq passed
  obtain ⟨answer, wire, same⟩ := submit_of_inFlight passed
  rw [same]
  have after := settle_ends (d := { d with store := s, wire }) processing sub.action answer
  rcases after with ⟨refused, still⟩ | ⟨taken, ends⟩
  · exact ⟨iff_of_false (Snapshot.not_ends_of_processing still) (not_not_intro refused),
      iff_of_true still refused⟩
  · exact ⟨iff_of_true ends taken,
      iff_of_false (fun still => Snapshot.not_ends_of_processing still ends) taken⟩

/-- A text is answered with a round of clarification, which becomes the live one. -/
theorem ends_iff_clarifying :
    let body := "\x7b\"status\":\"clarification_needed\",\"session_id\":\"s1\"\x7d"
    let d := Desk.new (.inMemory .standard) .nothing (.scripted [.answer 200 body false])
    let sub : Submission := .text "job" "fix the login bug"
    (sub.inFlight? d.store).isSome = true ∧ (d.submit sub).2.store.snapshot.status = .clarifying ∧
      (d.submit sub).2.store.snapshot.Ends sub.action (d.submit sub).1 := by
  intro body d sub
  have passed : (sub.inFlight? d.store).isSome = true := by decide +kernel
  have clarifying : (d.submit sub).2.store.snapshot.status = .clarifying := by decide +kernel
  obtain ⟨s, inFlight⟩ := Option.isSome_iff_exists.1 passed
  obtain ⟨ends, still⟩ := ends_iff inFlight
  have answerable : ¬ d.Stranded sub := by
    intro stranded
    have processing := still.2 stranded
    rw [clarifying] at processing
    cases processing
  exact ⟨passed, clarifying, ends.2 answerable⟩

/-- A text is answered with a round of clarification whose id is blank: the command has returned it,
and the job is still in process. -/
theorem not_forall_ends : ¬ ∀ (d : Desk) (sub : Submission),
    (sub.inFlight? d.store).isSome = true →
      (d.submit sub).2.store.snapshot.Ends sub.action (d.submit sub).1 := by
  intro always
  let body := "\x7b\"status\":\"clarification_needed\",\"session_id\":\" \"\x7d"
  let d := Desk.new (.inMemory .standard) .nothing (.scripted [.answer 200 body false])
  let sub : Submission := .text "job" "fix the login bug"
  have processing : (d.submit sub).2.store.snapshot.status = .processing := by decide +kernel
  exact Snapshot.not_ends_of_processing processing (always d sub (by decide +kernel))

end Desk

end VoiceTicket
