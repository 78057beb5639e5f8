/-
  A look now and then.

  1. **Data** — `Store.trail` is every snapshot that a store shows in the course of a run.  Who
     looks now and then gets to see some of them, in order: a sublist of the trail.

  2. **Program** — `Screen.follow` is what is printed at each look, for what has changed since the
     look before.

  3. **Specification** — `follow_of_glimpses`: whatever has been missed, the lines of the log that
     are printed are those of all entries that were made since the first look, each once and in
     order; a round of clarification is printed exactly when one is live that was not live at the
     look before; and what has been printed is not printed again.

  4. **Crux** — every snapshot of a trail grows to every later one (`pairwise_trail`), and so does
     every one that is seen to every one that is seen later.  Then the lengths of the logs are all
     that has to be kept of them (`drop_append_drop`).

  5. **Bridge** — what is printed is no more than lines; they tell by their beginnings what they
     are (`filter_changes`, `dropWhile_changes`).
-/
import VoiceTicket.Proofs.Store.Frame
import VoiceTicket.Terminal.Screen

namespace VoiceTicket

namespace Store

/-! ## The trail of a run -/

/-- What the store shows for a moment in the midst of an operation: a job is begun with a text in
two steps, and the first of them leaves the text out. -/
def halfway? (s : Store) : Operation → Option Snapshot
  | .startTextJob job _ => (s.beginJob job .processing "Submitting…").toOption.map (·.snapshot)
  | _ => none

/-- Every snapshot that a store shows in the course of a run, the first and the last included. -/
def trail : Store → List Operation → List Snapshot
  | s, [] => [s.snapshot]
  | s, op :: ops => s.snapshot :: ((s.halfway? op).toList ++ trail (s.perform op).2 ops)

/-- The two steps are those of two operations: one begins the job with no text, the other sets it.
So whatever comes in between the steps comes in between two operations of a run. -/
theorem halves_of_halfway {s : Store} {job text : String} {x : Snapshot}
    (between : s.halfway? (.startTextJob job text) = some x) :
    x = (s.perform (.startTextJob job "")).2.snapshot ∧
      (s.perform (.startTextJob job text)).2.snapshot =
        ((s.perform (.startTextJob job "")).2.perform (.setTranscription text)).2.snapshot := by
  by_cases canStart : s.snapshot.status.canStart = true
  · have free (given : String) :
        (Operation.startTextJob job given).obstacle? s.snapshot = none :=
      if_pos (s.snapshot.status.canStart_iff.1 canStart)
    simp only [halfway?, beginJob, if_pos canStart] at between
    cases between
    rw [perform_startTextJob (free text), perform_startTextJob (free "")]
    exact ⟨rfl, rfl⟩
  · simp only [halfway?, beginJob, if_neg canStart] at between
    cases between

theorem growsTo_halfway {s : Store} {op : Operation} {x : Snapshot}
    (between : s.halfway? op = some x) :
    s.snapshot.GrowsTo x ∧ x.GrowsTo (s.perform op).2.snapshot := by
  cases op with
  | startTextJob job text =>
    obtain ⟨first, second⟩ := halves_of_halfway between
    rw [first, second]
    exact ⟨(framed_perform _ _).growsTo, (framed_perform _ _).growsTo⟩
  | _ => cases between

/-- Every snapshot of a trail has grown from the first. -/
theorem growsTo_of_mem_trail {s : Store} {ops : List Operation} {x : Snapshot}
    (seen : x ∈ s.trail ops) : s.snapshot.GrowsTo x := by
  induction ops generalizing s with
  | nil =>
    rw [List.mem_singleton.1 seen]
    exact .refl _
  | cons op ops ih =>
    rw [trail, List.mem_cons, List.mem_append, Option.mem_toList] at seen
    rcases seen with rfl | between | later
    · exact .refl _
    · exact (growsTo_halfway between).1
    · exact (framed_perform s op).growsTo.trans (ih later)

/-- **A trail only grows.** -/
theorem pairwise_trail (s : Store) (ops : List Operation) :
    (s.trail ops).Pairwise Snapshot.GrowsTo := by
  induction ops generalizing s with
  | nil => exact List.pairwise_singleton _ _
  | cons op ops ih =>
    have step : s.snapshot.GrowsTo (s.perform op).2.snapshot := (framed_perform s op).growsTo
    rw [trail, List.pairwise_cons, List.pairwise_append]
    refine ⟨?_, ?_, ih _, ?_⟩
    · intro x seen
      rw [List.mem_append, Option.mem_toList] at seen
      rcases seen with between | later
      · exact (growsTo_halfway between).1
      · exact step.trans (growsTo_of_mem_trail later)
    · -- There is one moment at most in the midst of an operation.
      cases s.halfway? op with
      | none => exact List.Pairwise.nil
      | some x => exact List.pairwise_singleton _ _
    · intro x between y later
      exact (growsTo_halfway (Option.mem_toList.1 between)).2.trans (growsTo_of_mem_trail later)

end Store

namespace Screen

/-! ## What is printed -/

/-- What is printed at each look, for what has changed since the look before. -/
def follow (shown : Snapshot) : List Snapshot → List (List String)
  | [] => []
  | s :: seen => (of shown).changes s :: follow s seen

/-- The line begins like this. -/
def begins (start line : String) : Bool := start.toList.isPrefixOf line.toList

/-- The line looks like one for an entry of the log. -/
def isLogLine (line : String) : Bool := begins "[" line

/-- The line looks like the header of a round of clarification. -/
def opensRound (line : String) : Bool := begins "Clarification needed (round " line

/-- A round of clarification: its header, its questions, numbered from one on, and the prompt. -/
def roundLines (s : Session) : List String :=
  ["Clarification needed (round " ++ toString s.round.toNat ++ "): " ++ s.summary]
  ++ s.questions.mapIdx (fun i question => "  " ++ toString (i + 1) ++ ". " ++ question)
  ++ ["Type your answer and press Enter."]

/-! ## How lines begin -/

/-- The line is neither one for an entry nor the header of a round. -/
def isPlain (line : String) : Bool := !isLogLine line && !opensRound line

theorem isLogLine_logLine (e : LogEntry) : isLogLine (logLine e) = true := by
  simp [isLogLine, begins, logLine]

theorem opensRound_logLine (e : LogEntry) : opensRound (logLine e) = false := by
  simp [opensRound, begins, logLine, List.isPrefixOf]

theorem isPlain_connectedLine (connected : Bool) : isPlain (connectedLine connected) = true := by
  cases connected <;> decide

theorem isPlain_statusLine (name : String) : isPlain ("status: " ++ name) = true := by
  simp [isPlain, isLogLine, opensRound, begins, List.isPrefixOf]

theorem isPlain_indented (text : String) : isPlain ("  " ++ text) = true := by
  simp [isPlain, isLogLine, opensRound, begins, List.isPrefixOf]

/-- Before the log come plain lines only. -/
theorem isPlain_of_mem_front {shown : Screen} {s : Snapshot} {line : String}
    (mem : line ∈ connectedChange shown s ++ statusChange shown s ++ labelChange shown s) :
    isPlain line = true := by
  rw [List.mem_append, List.mem_append] at mem
  rcases mem with (mem | mem) | mem
  · unfold connectedChange at mem
    split at mem
    · cases mem
    · rw [List.mem_singleton.1 mem]
      exact isPlain_connectedLine _
  · unfold statusChange at mem
    split at mem
    · cases mem
    · rw [List.mem_singleton.1 mem]
      exact isPlain_statusLine _
  · unfold labelChange at mem
    split at mem
    · cases mem
    · obtain ⟨label, -, rfl⟩ := List.mem_map.1 mem
      exact isPlain_indented label

theorem questionLines_eq_mapIdx (n : Nat) (questions : List String) :
    questionLines n questions =
      questions.mapIdx fun i question => "  " ++ toString (n + i) ++ ". " ++ question := by
  induction questions generalizing n with
  | nil => rfl
  | cons question questions ih =>
    rw [questionLines, ih, List.mapIdx_cons]
    congr 1
    refine congrArg (fun f => List.mapIdx f questions) ?_
    funext i question
    rw [Nat.add_right_comm]
    rfl

theorem sessionLines_eq (s : Session) : sessionLines s = roundLines s := by
  simp only [sessionLines, roundLines, questionLines_eq_mapIdx, Nat.add_comm 1]
  rfl

/-- No line of a round looks like one for an entry. -/
theorem isLogLine_of_mem_roundLines {s : Session} {line : String} (mem : line ∈ roundLines s) :
    isLogLine line = false := by
  simp only [roundLines, List.mem_append, List.mem_singleton, List.mem_mapIdx] at mem
  rcases mem with (rfl | ⟨i, bound, rfl⟩) | rfl
  · simp [isLogLine, begins, List.isPrefixOf]
  · simp [isLogLine, begins, List.isPrefixOf]
  · decide

/-! ## The parts of what is printed -/

/-- The round that is to be printed: the live one, unless it was live at the look before. -/
theorem sessionChange_eq (before after : Snapshot) :
    (of before).sessionChange after =
      if after.clarification.current = before.clarification.current then []
      else after.clarification.current.elim [] roundLines := by
  unfold sessionChange of
  cases after.clarification.current with
  | none => simp
  | some session => simp only [sessionLines_eq, Option.elim_some, eq_comm]

theorem sessionChange_cases (shown : Screen) (s : Snapshot) :
    shown.sessionChange s = [] ∨ ∃ session, shown.sessionChange s = roundLines session := by
  unfold sessionChange
  cases s.clarification.current with
  | none => exact .inl rfl
  | some session =>
    dsimp only
    split
    · exact .inl rfl
    · exact .inr ⟨session, sessionLines_eq session⟩

/-- The lines for the log can be told from all others. -/
theorem filter_changes (shown : Screen) (s : Snapshot) :
    (shown.changes s).filter isLogLine = shown.logChange s := by
  have front : (connectedChange shown s ++ statusChange shown s ++ labelChange shown s).filter
      isLogLine = [] := by
    rw [List.filter_eq_nil_iff]
    intro line mem
    have plain := isPlain_of_mem_front mem
    rw [isPlain, Bool.and_eq_true, Bool.not_eq_true'] at plain
    rw [plain.1]
    exact Bool.false_ne_true
  have log : (shown.logChange s).filter isLogLine = shown.logChange s := by
    rw [List.filter_eq_self]
    intro line mem
    obtain ⟨e, -, rfl⟩ := List.mem_map.1 mem
    exact isLogLine_logLine e
  have round : (shown.sessionChange s).filter isLogLine = [] := by
    rw [List.filter_eq_nil_iff]
    intro line mem
    rcases sessionChange_cases shown s with none | ⟨session, some⟩
    · rw [none] at mem
      cases mem
    · rw [some] at mem
      rw [isLogLine_of_mem_roundLines mem]
      exact Bool.false_ne_true
  rw [changes, List.filter_append, List.filter_append, front, log, round, List.nil_append,
    List.append_nil]

/-- A round, if one is printed, is all that is printed from its header on. -/
theorem dropWhile_changes (shown : Screen) (s : Snapshot) :
    (shown.changes s).dropWhile (!opensRound ·) = shown.sessionChange s := by
  rw [changes, List.dropWhile_append_of_pos]
  · rcases sessionChange_cases shown s with none | ⟨session, some⟩
    · rw [none]
      rfl
    · have header : opensRound ("Clarification needed (round " ++ toString session.round.toNat
          ++ "): " ++ session.summary) = true := by
        simp [opensRound, begins]
      rw [some, roundLines, List.append_assoc, List.singleton_append, List.dropWhile_cons_of_neg]
      rw [header]
      exact Bool.false_ne_true
  · intro line mem
    rcases List.mem_append.1 mem with mem | mem
    · have plain := isPlain_of_mem_front mem
      rw [isPlain, Bool.and_eq_true] at plain
      exact plain.2
    · obtain ⟨e, -, rfl⟩ := List.mem_map.1 mem
      rw [opensRound_logLine]
      rfl

/-! ## Many looks -/

/-- What two looks in a row show of a list that grows is what a single look would have shown. -/
theorem drop_append_drop {α : Type} {xs ys zs : List α} (first : xs <+: ys) (second : ys <+: zs) :
    ys.drop xs.length ++ zs.drop ys.length = zs.drop xs.length := by
  obtain ⟨more, rfl⟩ := first
  obtain ⟨most, rfl⟩ := second
  simp [List.append_assoc]

/-- The lines of the log, over all looks. -/
theorem filter_follow {first : Snapshot} {seen : List Snapshot}
    (grows : (first :: seen).Pairwise Snapshot.GrowsTo) :
    (follow first seen).flatten.filter isLogLine =
      ((seen.getLastD first).log.entries.drop first.log.size).map logLine := by
  induction seen generalizing first with
  | nil =>
    rw [List.getLastD_nil, EventLog.size, List.drop_length]
    rfl
  | cons s seen ih =>
    rw [List.pairwise_cons] at grows
    have next : first.GrowsTo s := grows.1 s List.mem_cons_self
    -- What is seen last may be what is seen next.
    have last : s.GrowsTo (seen.getLastD s) := by
      have mem : seen.getLastD s ∈ s :: seen := List.getLastD_mem_cons
      rcases List.mem_cons.1 mem with same | later
      · rw [same]
        exact .refl s
      · exact (List.pairwise_cons.1 grows.2).1 _ later
    rw [List.getLastD_cons]
    calc (follow first (s :: seen)).flatten.filter isLogLine
        = (of first).logChange s ++ (follow s seen).flatten.filter isLogLine := by
          rw [follow, List.flatten_cons, List.filter_append, filter_changes]
      _ = (s.log.entries.drop first.log.size ++
            (seen.getLastD s).log.entries.drop s.log.size).map logLine := by
          rw [ih grows.2, List.map_append]
          rfl
      _ = ((seen.getLastD s).log.entries.drop first.log.size).map logLine := by
          rw [EventLog.size, EventLog.size, drop_append_drop next.log last.log]

/-- **Nothing is lost and nothing is shown twice.**  Whatever part of the trail of a run is seen,
the lines of the log that are printed are those of the entries made since the first look, each once
and in order.  A round of clarification is printed, from its header to the prompt, exactly when one
is live that was not live at the look before; and what has been printed is not printed again. -/
theorem follow_of_glimpses {ops : List Store.Operation} {first : Snapshot} {seen : List Snapshot}
    (glimpses : (first :: seen).Sublist (Store.initial.trail ops)) :
    (follow first seen).flatten.filter isLogLine =
        ((seen.getLastD first).log.entries.drop first.log.size).map logLine ∧
      (∀ before after : Snapshot, ((of before).changes after).dropWhile (!opensRound ·) =
        if after.clarification.current = before.clarification.current then []
        else after.clarification.current.elim [] roundLines) ∧
      ∀ s : Snapshot, (of s).changes s = [] := by
  refine ⟨filter_follow ((Store.pairwise_trail _ ops).sublist glimpses), ?_, changes_of⟩
  intro before after
  rw [dropWhile_changes, sessionChange_eq]

/-- A job is seen as it is begun, and then only after it has been clarified and reset. -/
theorem follow_of_glimpses_skipping :
    let ops : List Store.Operation := [.startTextJob "job" "fix it",
      .fold (.clarification ⟨"s1", ["Which board?"], "Fix it", 1⟩ none), .takeSession, .reset,
      .note "again"]
    let begun := Snapshot.initial.beginJob "job" .processing "Submitting…"
    let last := (Store.initial.performAll ops).snapshot
    (Snapshot.initial :: [begun, last]).Sublist (Store.initial.trail ops) ∧
      (follow Snapshot.initial [begun, last]).flatten.filter isLogLine =
        ["[info] Job job started", "[info] Clarification needed (round 1)",
          "[info] Answered clarification round 1 for session s1", "[info] again"] := by
  intro ops begun last
  have glimpses : (Snapshot.initial :: [begun, last]).Sublist (Store.initial.trail ops) := by
    decide +kernel
  refine ⟨glimpses, ?_⟩
  rw [(follow_of_glimpses glimpses).1]
  decide +kernel

end Screen

end VoiceTicket
