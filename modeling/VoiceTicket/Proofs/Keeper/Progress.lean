/-
  What a report of progress does to the store.

  1. **Data** — a report has a status, a node, both or neither (`Frame.report`); its known codes
     are those of the two that are in the table, in this order.  `Snapshot.reported` says what is
     shown after them: status and label are those of the last one, and the live session is gone if
     any of them is terminal.

  2. **Specification** — `store_of_report`: the current run takes up a report, and the store is then
     as it is after the known codes alone, whatever else stands beside them; without a known code
     it is left alone.  Every report can come: it has a text (`Frame.read_report`).

  3. **Crux** — a code sets the status and the label, so that a later one undoes it, but the session
     that it ends stays ended (`snapshot_foldl_follow`).

  4. **Bridge** — a code is told to the store in two signals (`Progress.flatMap_signals`), and neither
     is an entry of the log, so that no report can fail (`reportAll_of_unlogged`).
-/
import VoiceTicket.Proofs.Keeper.Listening
import VoiceTicket.Proofs.Wire.RoundTrip

namespace VoiceTicket

/-! ## Reports -/

namespace Frame

/-- A report of progress; with neither a status nor a node it says nothing. -/
def report (status node : Option String) : Frame :=
  if status.isSome || node.isSome then .progress status node else .silent

theorem signals_report (status node : Option String) :
    (report status node).signals = (status.toList ++ node.toList).flatMap Progress.signals := by
  cases status with
  | some code => rfl
  | none => cases node <;> rfl

/-- The members of an object that reports progress. -/
def reportMembers (status node : Option String) : List (String × Json) :=
  (status.map fun code => ("status", Json.str code)).toList ++
    (node.map fun code => ("current_node", Json.str code)).toList

/-- **Every report has a text**, one that is read as this report. -/
theorem read_report (now : String) (status node : Option String) :
    read now (Json.obj (reportMembers status node)).render = report status node := by
  have legible : Json.Legible Json.maxNesting (.obj (reportMembers status node)) := by
    refine ⟨by decide, (Json.legibleMembers_iff _ _).2 fun m mem => ?_⟩
    cases status <;> cases node <;> simp [reportMembers] at mem <;>
      rcases mem with rfl | rfl <;> trivial
  have field (key : String) : (Json.obj (reportMembers status node)).sorted.field? key =
      (Json.find? key (reportMembers status node)).map Json.sorted := by
    refine Json.field?_sorted ?_ key
    cases status <;> cases node <;> simp [reportMembers]
  rw [read_render_obj legible, ofObject?, ofUntyped, textField, textField, textField, field, field,
    field]
  cases status <;> cases node <;> rfl

end Frame

/-! ## What the known codes make of a store -/

/-- What is shown after some known codes: the last of them, and no session if any is terminal. -/
def Snapshot.reported (s : Snapshot) (known : List Progress) : Snapshot :=
  match known.getLast? with
  | none => s
  | some last =>
    { s with
      status := last.status
      label := last.label
      clarification :=
        if known.any (·.status.isTerminal) then .empty else s.clarification }

namespace Store

variable {s : Store} {p : Progress} {known : List Progress}

/-- The store after a known code. -/
def follow (s : Store) (p : Progress) : Store := (s.setStatus p.status).setLabel p.label

theorem snapshot_setLabel (s : Store) (label : Option String) :
    (s.setLabel label).snapshot = { s.snapshot with label } := by
  rw [setLabel]
  split
  · next same => rw [← same]
  · rfl

theorem snapshot_setStatus (s : Store) (status : Status) :
    (s.setStatus status).snapshot =
      { s.snapshot with
        status
        clarification := if status.isTerminal then .empty else s.snapshot.clarification } := by
  show (if status.isTerminal then Snapshot.endSession _ else _) = _
  split <;> rfl

/-- **One known code.** -/
theorem snapshot_follow (s : Store) (p : Progress) :
    (s.follow p).snapshot = s.snapshot.reported [p] := by
  rw [follow, snapshot_setLabel, snapshot_setStatus]
  simp [Snapshot.reported]

theorem version_follow (s : Store) (p : Progress) : s.version < (s.follow p).version := by
  have told : (s.setStatus p.status).version = s.version + 1 := rfl
  rw [follow, setLabel]
  split
  · omega
  · show s.version < (s.setStatus p.status).version + 1
    omega

/-- A known code in front of others: they undo all of it but the end of the session. -/
theorem reported_cons (s : Snapshot) (p : Progress) (known : List Progress) :
    (s.reported [p]).reported known = s.reported (p :: known) := by
  cases last : known.getLast? with
  | none =>
    rw [List.getLast?_eq_none_iff.1 last]
    rfl
  | some q =>
    have last' : (p :: known).getLast? = some q := by rw [List.getLast?_cons, last]; rfl
    have first : [p].getLast? = some p := rfl
    simp only [Snapshot.reported, last, last', first, List.any_cons, List.any_nil, Bool.or_false]
    by_cases terminal : p.status.isTerminal = true
    · simp only [terminal, if_true, ite_self, Bool.true_or]
    · simp only [terminal, Bool.false_eq_true, if_false, Bool.false_or]

/-- **Some known codes.** -/
theorem snapshot_foldl_follow (s : Store) (known : List Progress) :
    (known.foldl follow s).snapshot = s.snapshot.reported known := by
  induction known generalizing s with
  | nil => rfl
  | cons p known ih => rw [List.foldl_cons, ih, snapshot_follow, reported_cons]

theorem version_foldl_follow (s : Store) (known : List Progress) :
    s.version + known.length ≤ (known.foldl follow s).version := by
  induction known generalizing s with
  | nil => exact Nat.le_refl _
  | cons p known ih =>
    have first := s.version_follow p
    have others := ih (s.follow p)
    rw [List.foldl_cons, List.length_cons]
    omega

/-- What is told of some codes is what is told of those that are known. -/
theorem foldl_signals (s : Store) (codes : List String) :
    (codes.flatMap Progress.signals).foldl receive s =
      (codes.filterMap Progress.ofCode?).foldl follow s := by
  rw [Progress.flatMap_signals]
  generalize codes.filterMap Progress.ofCode? = known
  induction known generalizing s with
  | nil => rfl
  | cons p known ih =>
    rw [List.flatMap_cons, List.foldl_append, ih, List.foldl_cons]
    rfl

end Store

/-! ## What the run makes of a report -/

theorem Progress.isLog_signals (code : String) :
    ∀ signal ∈ Progress.signals code, signal.isLog = false := by
  intro signal mem
  unfold Progress.signals at mem
  split at mem
  · rcases List.mem_cons.1 mem with rfl | mem
    · rfl
    · rw [List.mem_singleton.1 mem]
      rfl
  · cases mem

namespace Keeper

variable {k k₁ : Keeper} {run socket : Nat} {r : Run} {choice : Choice} {now text : String}

/-- What is no entry of the log always arrives. -/
theorem reportAll_of_unlogged (k : Keeper) {signals : List Signal}
    (unlogged : ∀ signal ∈ signals, signal.isLog = false) :
    k.reportAll signals = .ok (k.told signals) := by
  induction signals generalizing k with
  | nil => rw [told_nil]; rfl
  | cons signal rest ih =>
    have first : k.report signal = .ok (k.told [signal]) := by
      rcases report_cases k signal with arrived | ⟨logged, _⟩
      · exact arrived
      · rw [unlogged signal List.mem_cons_self] at logged
        cases logged
    have others := ih (k.told [signal]) fun s mem => unlogged s (List.mem_cons_of_mem signal mem)
    rw [told_told] at others
    rw [reportAll, List.foldlM_cons, first]
    exact others

/-- The current run takes up a text that its socket has for it. -/
theorem advance_of_text (found : k.runs[run]? = some r) (reading : r.phase = .reading socket)
    (current : k.isCurrent run = true) (taken : r.cancelled = false ∨ choice.event = true)
    (read : k.readNext? socket = some (.text text, k₁)) :
    k.advance now run choice = some (conclude run (k₁.dispatch now text)) := by
  have stays : (r.cancelled && !choice.event) = false := by
    rcases taken with attached | event
    · rw [attached]
      rfl
    · rw [event]
      exact Bool.and_false _
  have current' : k₁.isCurrent run = true := (isCurrent_readNext? read run).trans current
  simp only [advance, found, effect?, reading, read?, read, stays, handle, current', if_true,
    Bool.false_eq_true, if_false, Option.map_some]

/-- The store once a text was taken up that is a report. -/
theorem store_dispatch_of_report {status node : Option String}
    (report : Frame.read now text = .report status node) :
    (conclude run (k.dispatch now text)).store =
      ((status.toList ++ node.toList).filterMap Progress.ofCode?).foldl Store.follow k.store := by
  have unlogged : ∀ signal ∈ (Frame.report status node).signals, signal.isLog = false := by
    intro signal mem
    rw [Frame.signals_report] at mem
    obtain ⟨code, -, mem⟩ := List.mem_flatMap.1 mem
    exact Progress.isLog_signals code signal mem
  rw [dispatch, report, reportAll_of_unlogged _ unlogged, Frame.signals_report,
    ← Store.foldl_signals]
  rfl

/-- **A report of progress.**  When the current run takes up a text that is a report, whatever the
store is like, the store is then as it is after the known codes alone, in order: the status and the
label shown are those of the last one, the live session is gone if any of them is terminal, and all
else is as it was.  The subscribers are told, unless no code is known: then nothing is changed. -/
theorem store_of_report {status node : Option String}
    (found : k.runs[run]? = some r) (reading : r.phase = .reading socket)
    (current : k.isCurrent run = true) (taken : r.cancelled = false ∨ choice.event = true)
    (next : (k.readNext? socket).map (·.1) = some (.text text))
    (report : Frame.read now text = .report status node) :
    let known := (status.toList ++ node.toList).filterMap Progress.ofCode?
    ∃ k', k.advance now run choice = some k' ∧
      k'.store = known.foldl Store.follow k.store ∧
      k'.store.snapshot = k.store.snapshot.reported known ∧
      (known = [] → k'.store = k.store) ∧
      (known ≠ [] → k.store.version < k'.store.version) := by
  intro known
  obtain ⟨⟨event, k₁⟩, read, same⟩ := Option.map_eq_some_iff.1 next
  cases same
  have before : k₁.store = k.store := by
    obtain ⟨_, _, _, _, rfl⟩ := readNext?_eq read
    rfl
  have after : (conclude run (k₁.dispatch now text)).store = known.foldl Store.follow k.store := by
    rw [store_dispatch_of_report report, before]
  refine ⟨_, advance_of_text found reading current taken read, after, ?_, ?_, ?_⟩
  · rw [after, Store.snapshot_foldl_follow]
  · intro none'
    rw [after, none']
    rfl
  · intro some'
    have told := k.store.version_foldl_follow known
    have length := List.length_pos_iff.2 some'
    rw [after]
    omega

/-- A terminal status, and then a stage of work in progress: the session is gone all the same. -/
theorem store_of_report_overtaken :
    let go : Move := .go 0 .plain ""
    let asks : Move := .act (.store (.receive (.clarification ⟨"s1", [], "", 1⟩))) rfl
    let text := (Json.obj (Frame.reportMembers (some "completed") (some "extracting"))).render
    let moves : List Move :=
      [.act (.accept false false) rfl, .start, go, go, asks, .act (.send 0 (.text text)) rfl]
    let k := (new .standard "http://a").after moves
    k.store.snapshot.clarification.isActive = true ∧ ∃ k', k.advance "" 0 .plain = some k' ∧
      k'.store.snapshot =
        { k.store.snapshot with
          status := .processing, label := some "Extracting intent…", clarification := .empty } := by
  intro go asks text moves k
  have found : k.runs[0]? = some ⟨false, .reading 0⟩ := by decide +kernel
  have current : k.isCurrent 0 = true := by decide +kernel
  have next : (k.readNext? 0).map (·.1) = some (.text text) := by decide +kernel
  have live : k.store.snapshot.clarification.isActive = true := by decide +kernel
  have taken : false = false ∨ Choice.plain.event = true := Or.inl rfl
  obtain ⟨k', step, -, shown, -⟩ := store_of_report found rfl current taken next
    (Frame.read_report "" (some "completed") (some "extracting"))
  exact ⟨live, k', step, shown⟩

end Keeper

end VoiceTicket
