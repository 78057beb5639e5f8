/-
  What an operation leaves alone.

  1. **Data** — of all that the user sees, the log and the loop events are a record of what has
     happened, the indicator belongs to the connection, and the id to the job.
     `Operation.event?` and `Operation.connected?` are what an operation reports of them.

  2. **Specification** — `framed_of_run`: the log and the loop events only grow, the events by
     those that are delivered; the indicator is what was reported last; the id is that of the job
     begun last, until a reset; what only makes an entry leaves the rest of the snapshot as it is.
     So the latest event about a ticket is the last one that was delivered with its key, whatever
     else has been done.

  3. **Crux** — all of this is said of one operation, once (`framed_perform`).  Most operations
     report nothing, and then it is enough that they keep to their own fields (`Framed.of_plain`).
     A run of operations is an induction over its last one (`events_performAll`).
-/
import Mathlib.Data.List.Induction
import VoiceTicket.Proofs.Store.Guard

namespace VoiceTicket

/-- What a signal says about the connection. -/
def Signal.connected? : Signal → Option Bool
  | .connected up => some up
  | .log .. | .status _ | .label _ | .clarification _ | .loop _ => none

/-- The loop event that a signal delivers. -/
def Signal.event? : Signal → Option LoopEvent
  | .loop event => some event
  | .log .. | .status _ | .label _ | .connected _ | .clarification _ => none

namespace Snapshot

/-! ## A record that grows -/

/-- A snapshot that came later, as far as the record tells: the log and the loop events of the one
before come first in it. -/
structure GrowsTo (s s' : Snapshot) : Prop where
  log : s.log.entries <+: s'.log.entries
  loops : s.loops.events <+: s'.loops.events

variable {s s' s'' : Snapshot}

theorem GrowsTo.refl (s : Snapshot) : s.GrowsTo s := ⟨List.prefix_rfl, List.prefix_rfl⟩

theorem GrowsTo.trans (h : s.GrowsTo s') (h' : s'.GrowsTo s'') : s.GrowsTo s'' :=
  ⟨h.log.trans h'.log, h.loops.trans h'.loops⟩

/-! ## Opening a session -/

theorem openSession_of_refused {session : Session} {refusal : Session.Refusal}
    (refused : s.clarification.refusal? session = some refusal) :
    s.openSession session = s.note .warn refusal.message := by
  simp only [openSession, Tracker.accept, refused]

theorem openSession_of_admitted {session : Session}
    (admitted : s.clarification.refusal? session = none) :
    s.openSession session =
      { s with status := .clarifying, label := none, clarification := ⟨some session⟩ }.note .info
        ("Clarification needed (round " ++ toString session.round.toNat ++ ")") := by
  simp only [openSession, Tracker.accept, admitted]

/-- A session that is opened makes an entry, whether it is refused or not, and changes nothing but
the status, the label and the live session. -/
theorem openSession_cases (s : Snapshot) (session : Session) :
    ∃ level message status label tracker, s.openSession session =
      { s with status, label, clarification := tracker }.note level message := by
  cases verdict : s.clarification.refusal? session with
  | some refusal => exact ⟨_, _, _, _, _, openSession_of_refused verdict⟩
  | none => exact ⟨_, _, _, _, _, openSession_of_admitted verdict⟩

end Snapshot

namespace Store

/-! ## What operations report -/

/-- What an operation reports of the connection. -/
def Operation.connected? : Operation → Option Bool
  | .receive signal => signal.connected?
  | _ => none

/-- The loop event that an operation delivers. -/
def Operation.event? : Operation → Option LoopEvent
  | .receive signal => signal.event?
  | _ => none

/-- The operation does no more than make an entry in the record. -/
def Operation.isEntry : Operation → Bool
  | .note _ | .receive (.log ..) | .receive (.loop _) => true
  | _ => false

/-- The operation is neither a report on the connection or a ticket nor a mere entry. -/
def Operation.isPlain (op : Operation) : Bool :=
  op.event?.isNone && op.connected?.isNone && !op.isEntry

/-- The id of the job that has been begun, if an operation answers that one has. -/
def Answer.job? : Answer → Option String
  | .started job => some job
  | .accepted | .session _ | .rejected _ => none

/-- The id of the job after an operation, by its answer and the id before. -/
def Operation.jobAfter (answer : Answer) (job : Option String) : Operation → Option String
  | .reset => none
  | _ => answer.job?.or job

/-! ## One operation -/

/-- What an operation may do to the parts of the snapshot that are not its own. -/
structure Framed (op : Operation) (s : Snapshot) (answer : Answer) (s' : Snapshot) : Prop where
  /-- No entry of the log is dropped or changed. -/
  log : s.log.entries <+: s'.log.entries
  /-- The history grows by the event that is delivered, if one is. -/
  loops : s'.loops.events = s.loops.events ++ op.event?.toList
  /-- The event that is delivered makes one entry. -/
  described : ∀ event, op.event? = some event →
    s'.log.entries = s.log.entries ++ [⟨.info, event.describe, none⟩]
  /-- The indicator is changed by a report only. -/
  connected : s'.connected = op.connected?.getD s.connected
  /-- The id is changed by a job that has begun and by a reset only. -/
  job : s'.job = op.jobAfter answer s.job
  /-- What only makes an entry leaves all but the record alone. -/
  rest : op.isEntry = true → s' = { s with log := s'.log, loops := s'.loops }

namespace Framed

variable {op : Operation} {s s' : Snapshot} {answer : Answer} {refusal : Refusal}

theorem growsTo (h : Framed op s answer s') : s.GrowsTo s' := by
  refine ⟨h.log, ?_⟩
  rw [h.loops]
  exact List.prefix_append _ _

theorem of_rejected (blocked : op.obstacle? s = some refusal) :
    Framed op s (.rejected refusal) s := by
  cases op with
  | startRecording | stopRecording | startTextJob | takeSession =>
    exact ⟨List.prefix_rfl, (List.append_nil _).symm, nofun, rfl, rfl, nofun⟩
  | setTranscription | fold | note | fail | reset | receive => cases blocked

/-- An operation that delivers no event and makes no mere entry leaves the history alone, and the
indicator is as it reports. -/
theorem of_eventless (eventless : op.event? = none) (busy : op.isEntry = false)
    (log : s.log.entries <+: s'.log.entries) (loops : s'.loops = s.loops)
    (connected : s'.connected = op.connected?.getD s.connected)
    (job : s'.job = op.jobAfter answer s.job) : Framed op s answer s' := by
  refine ⟨log, ?_, ?_, connected, job, ?_⟩
  · rw [loops, eventless]
    exact (List.append_nil _).symm
  · rw [eventless]
    exact nofun
  · rw [busy]
    exact nofun

/-- An operation that reports nothing and makes no mere entry may change all but these parts. -/
theorem of_plain (plain : op.isPlain = true) (log : s.log.entries <+: s'.log.entries)
    (loops : s'.loops = s.loops) (connected : s'.connected = s.connected)
    (job : s'.job = op.jobAfter answer s.job) : Framed op s answer s' := by
  simp only [Operation.isPlain, Bool.and_eq_true, Option.isNone_iff_eq_none,
    Bool.not_eq_true'] at plain
  obtain ⟨⟨eventless, apart⟩, busy⟩ := plain
  refine of_eventless eventless busy log loops ?_ job
  rw [connected, apart]
  rfl

/-- An operation that reports nothing may make an entry of the log. -/
theorem of_logged {log : EventLog} (eventless : op.event? = none) (apart : op.connected? = none)
    (growth : s.log.entries <+: log.entries) (job : s.job = op.jobAfter answer s.job) :
    Framed op s answer { s with log := log } := by
  refine ⟨growth, ?_, ?_, ?_, job, fun _ => rfl⟩
  · rw [eventless]
    exact (List.append_nil _).symm
  · rw [eventless]
    exact nofun
  · rw [apart]
    rfl

theorem of_opened {session : Session} (plain : op.isPlain = true)
    (job : op.jobAfter answer s.job = s.job) : Framed op s answer (s.openSession session) := by
  obtain ⟨level, message, status, label, tracker, opened⟩ := s.openSession_cases session
  rw [opened]
  exact of_plain plain (List.prefix_append _ _) rfl rfl job.symm

end Framed

/-- Signals, too, leave alone what they do not report. -/
theorem framed_receive (s : Store) (signal : Signal) :
    Framed (.receive signal) s.snapshot .accepted (s.receive signal).snapshot := by
  cases signal with
  | log level message => exact .of_logged rfl rfl (List.prefix_append _ _) rfl
  | status status =>
    simp only [receive, setStatus, update]
    split
    · exact .of_plain rfl List.prefix_rfl rfl rfl rfl
    · exact .of_plain rfl List.prefix_rfl rfl rfl rfl
  | label label =>
    simp only [receive, setLabel]
    split
    · exact .of_plain rfl List.prefix_rfl rfl rfl rfl
    · exact .of_plain rfl List.prefix_rfl rfl rfl rfl
  | connected connected =>
    simp only [receive, setConnected]
    split
    · -- What is set already is what is reported.
      next same =>
      exact .of_eventless rfl rfl List.prefix_rfl rfl same rfl
    · exact .of_eventless rfl rfl List.prefix_rfl rfl rfl rfl
  | clarification session =>
    simp only [receive, update]
    exact .of_opened rfl rfl
  | loop event =>
    refine ⟨List.prefix_append _ _, rfl, ?_, rfl, rfl, fun _ => rfl⟩
    rintro _ ⟨⟩
    rfl

/-- **One operation.**  It leaves alone what is not its own. -/
theorem framed_perform (s : Store) (op : Operation) :
    Framed op s.snapshot (s.perform op).1 (s.perform op).2.snapshot := by
  cases blocked : op.obstacle? s.snapshot with
  | some refusal =>
    rw [perform_of_obstacle blocked]
    exact .of_rejected blocked
  | none =>
    cases op with
    | startRecording job =>
      rw [perform_startRecording blocked]
      exact .of_plain rfl (List.prefix_append _ _) rfl rfl rfl
    | startTextJob job text =>
      rw [perform_startTextJob blocked]
      exact .of_plain rfl (List.prefix_append _ _) rfl rfl rfl
    | stopRecording =>
      rw [perform_stopRecording blocked]
      exact .of_plain rfl (List.prefix_append _ _) rfl rfl rfl
    | takeSession =>
      obtain ⟨live, current⟩ := exists_live_of_free blocked
      rw [perform_takeSession current]
      exact .of_plain rfl (List.prefix_append _ _) rfl rfl rfl
    | fold outcome =>
      cases outcome with
      | ticket | transcription => exact .of_plain rfl (List.prefix_append _ _) rfl rfl rfl
      | clarification session =>
        simp only [perform, fold, update, Snapshot.fold]
        exact .of_opened rfl rfl
    | note message => exact .of_logged rfl rfl (List.prefix_append _ _) rfl
    | fail message => exact .of_plain rfl (List.prefix_append _ _) rfl rfl rfl
    | setTranscription text => exact .of_plain rfl List.prefix_rfl rfl rfl rfl
    | reset => exact .of_plain rfl List.prefix_rfl rfl rfl rfl
    | receive signal => exact framed_receive s signal

/-! ## A run of operations -/

/-- The history is what has been delivered, in order. -/
theorem events_performAll (s : Store) (ops : List Operation) :
    (s.performAll ops).snapshot.loops.events =
      s.snapshot.loops.events ++ ops.filterMap Operation.event? := by
  induction ops using List.reverseRecOn with
  | nil => exact (List.append_nil _).symm
  | append_singleton ops op ih =>
    rw [performAll_concat, (framed_perform _ op).loops, ih, List.filterMap_append,
      List.append_assoc]
    cases delivered : op.event? <;> simp [delivered]

theorem latest?_eq_getLast? (h : LoopHistory) (issue : String) :
    h.latest? issue = (h.events.filter (·.issue == issue)).getLast? := by
  rw [List.getLast?_filter, LoopHistory.latest?]

/-- **What outlives a job.**  At any time of any run an operation leaves alone what is not its own;
hence the latest event about a ticket is the last one that was delivered with its key. -/
theorem framed_of_run (ops : List Operation) :
    (∀ op, Framed op (initial.performAll ops).snapshot ((initial.performAll ops).perform op).1
        ((initial.performAll ops).perform op).2.snapshot) ∧
      ∀ issue, (initial.performAll ops).snapshot.loops.latest? issue =
        ((ops.filterMap Operation.event?).filter (·.issue == issue)).getLast? := by
  refine ⟨fun op => framed_perform _ op, fun issue => ?_⟩
  have delivered : (initial.performAll ops).snapshot.loops.events =
      ops.filterMap Operation.event? := events_performAll initial ops
  rw [latest?_eq_getLast?, delivered]

end Store

end VoiceTicket
