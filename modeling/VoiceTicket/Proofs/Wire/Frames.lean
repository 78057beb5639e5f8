/-
  What a text of the channel means.

  1. **Data** — `Session.Given`, `LoopEvent.Given`: the fields of a value that make it a round of
     questions, or an event.  `Frame.Means` are the shapes of a frame, one constructor for each,
     with all that an object must have and must not have to be of that shape.

  2. **Specification** — `Frame.read_eq_iff_means`: a text is read as what it means, every text
     means one thing, and an object with a known type is never a report of progress.

  3. **Crux** — absence, `null` and a value of a wrong type are three things, and which of them a
     field may be is for that field alone to say.  So a reading is an equation for the field where
     it inverts a writing (`Decoder.Inverts`): for `field?` where the field may only be absent, for
     `given?` where it may also be `null`.
-/
import Mathlib.Algebra.Ring.Nat
import VoiceTicket.Proofs.Wire.RoundTrip

namespace VoiceTicket

theorem toOption_eq_none_iff {ε α : Type} {x : Except ε α} :
    x.toOption = none ↔ ∀ a, x ≠ .ok a := by
  cases x <;> simp [Except.toOption]

/-! ## Fields -/

namespace Json

/-- A text under a key, or one that stands in where the key is absent. -/
def TextOr (key standIn : String) (v : Json) (s : String) : Prop :=
  v.field? key = some (.str s) ∨ v.field? key = none ∧ s = standIn

theorem given?_eq_none_iff {key : String} {v : Json} :
    v.given? key = none ↔ v.field? key = none ∨ v.field? key = some .null := by
  rw [given?]
  cases v.field? key with
  | none => simp
  | some w => cases w <;> simp

theorem given?_eq_some_iff {key : String} {v w : Json} :
    v.given? key = some w ↔ v.field? key = some w ∧ w ≠ .null := by
  rw [given?]
  cases v.field? key with
  | none => simp
  | some found =>
    cases found with
    | null =>
      constructor
      · intro h
        cases h
      · rintro ⟨h, other⟩
        cases h
        exact absurd rfl other
    | _ =>
      constructor
      · intro h
        cases h
        refine ⟨rfl, fun same => ?_⟩
        cases same
      · exact And.left

namespace Decoder

variable {α : Type} {key : String} {inner : Decoder α} {f : α → Json} {v : Json}

/-- A reading inverts a writing: it accepts what is written, as it was, and nothing else. -/
def Inverts (inner : Decoder α) (f : α → Json) : Prop := ∀ v a, inner v = .ok a ↔ v = f a

theorem inverts_text : Inverts text .str := fun _ _ => text_eq_ok_iff

theorem inverts_boolean : Inverts boolean .bool := by
  intro v b
  cases v <;> simp [boolean]

theorem inverts_texts : Inverts (list text) fun texts => .arr (texts.map .str) := by
  intro v texts
  constructor
  · intro read
    cases v with
    | arr items =>
      have each : items.mapM text = .ok texts := read
      clear read
      congr 1
      induction items generalizing texts with
      | nil =>
        cases each
        rfl
      | cons item items ih =>
        rw [List.mapM_cons] at each
        obtain ⟨s, first, each⟩ := except_bind_eq_ok.1 each
        obtain ⟨others, rest, each⟩ := except_bind_eq_ok.1 each
        cases each
        rw [text_eq_ok_iff.1 first, ih others rest, List.map_cons]
    | _ => cases read
  · rintro rfl
    exact list_text texts

/-- A field that may be absent is what was written, or absent. -/
theorem present_eq_ok_iff (inverts : Inverts inner f) {found : Option α} :
    present key inner v = .ok found ↔ v.field? key = found.map f := by
  cases field : v.field? key with
  | none =>
    rw [present_of_none field]
    cases found <;> simp
  | some w =>
    rw [present_of_some field]
    cases read : inner w with
    | error fault =>
      constructor
      · intro h
        cases h
      · intro h
        obtain ⟨a, rfl, same⟩ := Option.map_eq_some_iff.1 h.symm
        rw [(inverts w a).2 same.symm] at read
        cases read
    | ok a =>
      rw [(inverts w a).1 read]
      cases found with
      | none => simp [Except.map]
      | some b =>
        constructor
        · intro h
          cases h
          rfl
        · intro h
          have same : f a = f b := Option.some.inj h
          have again := (inverts (f a) b).2 same
          rw [(inverts (f a) a).2 rfl] at again
          cases again
          rfl

/-- A text that may be absent, with another in its place then. -/
theorem textOr_iff {standIn s : String} :
    v.TextOr key standIn s ↔
      ∃ found, present key text v = .ok found ∧ found.getD standIn = s := by
  constructor
  · rintro (there | ⟨absent, rfl⟩)
    · exact ⟨some s, (present_eq_ok_iff inverts_text).2 there, rfl⟩
    · exact ⟨none, (present_eq_ok_iff inverts_text).2 absent, rfl⟩
  · rintro ⟨found, read, rfl⟩
    have field := (present_eq_ok_iff inverts_text).1 read
    cases found with
    | none => exact Or.inr ⟨field, rfl⟩
    | some s => exact Or.inl field

theorem nullable_of_ne_null {w : Json} (other : w ≠ .null) :
    nullable inner w = (inner w).map some := by
  rw [nullable]
  exact other

/-- A field that may be absent or `null` is read where it is given. -/
theorem exists_present_nullable_iff {o : Option α} :
    (∃ found, present key (nullable inner) v = .ok found ∧ found.join = o) ↔
      (v.given? key = none ∧ o = none) ∨
        ∃ w a, v.given? key = some w ∧ inner w = .ok a ∧ o = some a := by
  cases field : v.field? key with
  | none =>
    have absent : v.given? key = none := given?_eq_none_iff.2 (Or.inl field)
    rw [present_of_none field, absent]
    simp [eq_comm]
  | some w =>
    rw [present_of_some field]
    by_cases null : w = .null
    · subst null
      have nothing : (nullable inner .null).map some = .ok (some none) := rfl
      have absent : v.given? key = none := given?_eq_none_iff.2 (Or.inr field)
      rw [nothing, absent]
      simp [eq_comm]
    · have there : v.given? key = some w := given?_eq_some_iff.2 ⟨field, null⟩
      rw [nullable_of_ne_null null, there]
      cases read : inner w with
      | error fault => simp [Except.map, read]
      | ok a => simp [Except.map, read, eq_comm]

/-- A field that may be absent or `null` is given as it was written, or not given. -/
theorem exists_present_nullable_iff_given? (inverts : Inverts inner f) {o : Option α} :
    (∃ found, present key (nullable inner) v = .ok found ∧ found.join = o) ↔
      v.given? key = o.map f := by
  rw [exists_present_nullable_iff]
  cases o with
  | none => simp
  | some a =>
    constructor
    · rintro (⟨_, none⟩ | ⟨w, b, given, read, same⟩)
      · cases none
      · cases same
        rw [given, (inverts w a).1 read]
        rfl
    · intro given
      exact Or.inr ⟨f a, a, given, (inverts (f a) a).2 rfl, rfl⟩

end Decoder

end Json

open Json.Decoder

/-! ## Rounds of questions -/

namespace Session

/-- The fields of a value make it a round of questions: a missing list of questions is empty, a
missing summary is blank, and rounds count from one. -/
structure Given (v : Json) (s : Session) : Prop where
  id : v.field? "session_id" = some (.str s.id)
  questions : v.field? "questions" = some (.arr (s.questions.map .str)) ∨
    v.field? "questions" = none ∧ s.questions = []
  summary : v.TextOr "partial_summary" "" s.summary
  round : v.given? "round" = none ∧ s.round = 1 ∨
    ∃ n < 2 ^ 32, v.given? "round" = some (.ofNat n) ∧ s.round.toNat = max n 1

variable {v w : Json} {s s' : Session}

theorem round_iff {r : UInt32} :
    (∃ found, present "round" (nullable (unsigned 32)) v = .ok found ∧
        UInt32.ofNat (max (found.join.getD 1) 1) = r) ↔
      v.given? "round" = none ∧ r = 1 ∨
        ∃ n < 2 ^ 32, v.given? "round" = some (.ofNat n) ∧ r.toNat = max n 1 := by
  constructor
  · rintro ⟨found, read, rfl⟩
    rcases exists_present_nullable_iff.1 ⟨found, read, rfl⟩ with
      ⟨absent, none⟩ | ⟨w, n, given, number, some⟩
    · rw [none]
      exact Or.inl ⟨absent, rfl⟩
    · obtain ⟨rfl, small⟩ := unsigned_eq_ok_iff.1 number
      have bound : max n 1 < 2 ^ 32 := by
        have small : n < 2 ^ 32 := small
        omega
      rw [some]
      exact Or.inr ⟨n, small, given, UInt32.toNat_ofNat_of_lt' bound⟩
  · rintro (⟨absent, rfl⟩ | ⟨n, small, given, same⟩)
    · have skipped : ∃ found, present "round" (nullable (unsigned 32)) v = .ok found ∧
          found.join = none := exists_present_nullable_iff.2 (Or.inl ⟨absent, rfl⟩)
      obtain ⟨found, read, none⟩ := skipped
      exact ⟨found, read, by rw [none]; rfl⟩
    · have number : unsigned 32 (.ofNat n) = .ok n := unsigned_eq_ok_iff.2 ⟨rfl, small⟩
      obtain ⟨found, read, some⟩ :=
        exists_present_nullable_iff.2 (Or.inr ⟨_, n, given, number, rfl⟩)
      refine ⟨found, read, ?_⟩
      rw [some, Option.getD_some, ← same, UInt32.ofNat_toNat]

theorem questions_iff {texts : List String} :
    (∃ found, present "questions" (list text) v = .ok found ∧ found.getD [] = texts) ↔
      v.field? "questions" = some (.arr (texts.map .str)) ∨
        v.field? "questions" = none ∧ texts = [] := by
  constructor
  · rintro ⟨found, read, rfl⟩
    have field := (present_eq_ok_iff inverts_texts).1 read
    cases found with
    | none => exact Or.inr ⟨field, rfl⟩
    | some texts => exact Or.inl field
  · rintro (there | ⟨absent, rfl⟩)
    · exact ⟨some texts, (present_eq_ok_iff inverts_texts).2 there, rfl⟩
    · exact ⟨none, (present_eq_ok_iff inverts_texts).2 absent, rfl⟩

theorem decode_eq_ok_iff : decode v = .ok s ↔ s.Given v := by
  constructor
  · intro h
    obtain ⟨summary, readSummary, h⟩ := except_bind_eq_ok.1 h
    obtain ⟨questions, readQuestions, h⟩ := except_bind_eq_ok.1 h
    obtain ⟨round, readRound, h⟩ := except_bind_eq_ok.1 h
    obtain ⟨id, readId, h⟩ := except_bind_eq_ok.1 h
    obtain ⟨_, someId, h⟩ := except_bind_eq_ok.1 h
    cases h
    exact ⟨holds_text_iff.1 (holds_iff.2 ⟨id, readId, someId⟩),
      questions_iff.1 ⟨questions, readQuestions, rfl⟩, textOr_iff.2 ⟨summary, readSummary, rfl⟩,
      round_iff.1 ⟨round, readRound, rfl⟩⟩
  · rintro ⟨id, questions, summary, round⟩
    obtain ⟨foundId, readId, someId⟩ := holds_iff.1 (holds_text_iff.2 id)
    obtain ⟨foundQuestions, readQuestions, sameQuestions⟩ := questions_iff.2 questions
    obtain ⟨foundSummary, readSummary, sameSummary⟩ := textOr_iff.1 summary
    obtain ⟨foundRound, readRound, sameRound⟩ := round_iff.2 round
    simp only [decode, except_bind_eq_ok]
    refine ⟨_, readSummary, _, readQuestions, _, readRound, _, readId, _, someId, ?_⟩
    rw [sameQuestions, sameSummary, sameRound]
    rfl

/-- The keys that a round of questions is read from. -/
def keys : List String := ["session_id", "questions", "partial_summary", "round"]

/-- Only the fields under these keys count. -/
theorem Given.of_fields (given : s.Given v) (same : ∀ key ∈ keys, w.field? key = v.field? key) :
    s.Given w := by
  have id := same "session_id" (by decide)
  have questions := same "questions" (by decide)
  have summary := same "partial_summary" (by decide)
  have round := Json.given?_of_field?_eq (same "round" (by decide))
  obtain ⟨i, q, m, r⟩ := given
  exact ⟨id.trans i, by rw [questions]; exact q, by rw [Json.TextOr, summary]; exact m,
    by rw [round]; exact r⟩

end Session

/-! ## Events -/

namespace LoopEvent

/-- The fields of a value make it an event; one without a time happened `now`. -/
structure Given (now : String) (v : Json) (e : LoopEvent) : Prop where
  issue : v.field? "issue_key" = some (.str e.issue)
  summary : v.given? "summary" = e.summary.map .str
  success : v.given? "success" = e.success.map .bool
  timestamp : v.given? "timestamp" = some (.str e.timestamp) ∨
    v.given? "timestamp" = none ∧ e.timestamp = now

variable {now : String} {v : Json} {e : LoopEvent} {kind : LoopKind}

theorem timestamp_iff {time : String} :
    (∃ found, present "timestamp" (nullable text) v = .ok found ∧ found.join.getD now = time) ↔
      v.given? "timestamp" = some (.str time) ∨ v.given? "timestamp" = none ∧ time = now := by
  constructor
  · rintro ⟨found, read, rfl⟩
    have given := (exists_present_nullable_iff_given? inverts_text).1 ⟨found, read, rfl⟩
    cases time : found.join with
    | none =>
      rw [time] at given
      exact Or.inr ⟨given, rfl⟩
    | some s =>
      rw [time] at given
      exact Or.inl given
  · rintro (given | ⟨absent, rfl⟩)
    · obtain ⟨found, read, some⟩ := (exists_present_nullable_iff_given? (o := some time)
        inverts_text).2 given
      exact ⟨found, read, by rw [some]; rfl⟩
    · obtain ⟨found, read, none⟩ := (exists_present_nullable_iff_given? (o := none)
        inverts_text).2 absent
      exact ⟨found, read, by rw [none]; rfl⟩

theorem decode_eq_ok_iff : decode kind now v = .ok e ↔ e.kind = kind ∧ e.Given now v := by
  constructor
  · intro h
    obtain ⟨issue, readIssue, h⟩ := except_bind_eq_ok.1 h
    obtain ⟨success, readSuccess, h⟩ := except_bind_eq_ok.1 h
    obtain ⟨summary, readSummary, h⟩ := except_bind_eq_ok.1 h
    obtain ⟨timestamp, readTimestamp, h⟩ := except_bind_eq_ok.1 h
    obtain ⟨_, someIssue, h⟩ := except_bind_eq_ok.1 h
    cases h
    exact ⟨rfl, holds_text_iff.1 (holds_iff.2 ⟨issue, readIssue, someIssue⟩),
      (exists_present_nullable_iff_given? inverts_text).1 ⟨summary, readSummary, rfl⟩,
      (exists_present_nullable_iff_given? inverts_boolean).1 ⟨success, readSuccess, rfl⟩,
      timestamp_iff.1 ⟨timestamp, readTimestamp, rfl⟩⟩
  · rintro ⟨rfl, issue, summary, success, timestamp⟩
    obtain ⟨foundIssue, readIssue, someIssue⟩ := holds_iff.1 (holds_text_iff.2 issue)
    obtain ⟨foundSummary, readSummary, sameSummary⟩ :=
      (exists_present_nullable_iff_given? inverts_text).2 summary
    obtain ⟨foundSuccess, readSuccess, sameSuccess⟩ :=
      (exists_present_nullable_iff_given? inverts_boolean).2 success
    obtain ⟨foundTimestamp, readTimestamp, sameTimestamp⟩ := timestamp_iff.2 timestamp
    simp only [decode, except_bind_eq_ok]
    refine ⟨_, readIssue, _, readSuccess, _, readSummary, _, readTimestamp, _, someIssue, ?_⟩
    rw [sameSummary, sameSuccess, sameTimestamp]
    rfl

end LoopEvent

/-! ## Frames -/

namespace Frame

/-- The types that are known. -/
def knownTypes : List String :=
  ["clarification_needed", "ticket_queued", "loop_started", "loop_completed"]

/-- A text spells an object. -/
def SpellsObject (text : String) (v : Json) : Prop :=
  Json.parse? text = some v ∧ v.isObject = true

/-- The text under a key, and nothing where there is no text. -/
def TextAt (key : String) (v : Json) (o : Option String) : Prop :=
  ∀ s, o = some s ↔ v.field? key = some (.str s)

/-- What a text means. -/
inductive Means (now text : String) : Frame → Prop where
  /-- A text that spells no object means itself. -/
  | noObject (lacking : ∀ v, ¬ SpellsObject text v) : Means now text (.raw text)
  | clarification {v : Json} {s : Session} (object : SpellsObject text v)
      (type : v.field? "type" = some (.str "clarification_needed")) (given : s.Given v) :
      Means now text (.clarification s)
  /-- So does an object that calls itself a round of questions without being one, -/
  | noClarification {v : Json} (object : SpellsObject text v)
      (type : v.field? "type" = some (.str "clarification_needed"))
      (lacking : ∀ s : Session, ¬ s.Given v) : Means now text (.raw text)
  | loop {v : Json} {e : LoopEvent} (object : SpellsObject text v)
      (type : v.field? "type" = some (.str e.kind.name)) (given : e.Given now v) :
      Means now text (.loop e)
  /-- and one that calls itself an event without being one. -/
  | noLoop {v : Json} {kind : LoopKind} (object : SpellsObject text v)
      (type : v.field? "type" = some (.str kind.name))
      (lacking : ∀ e : LoopEvent, ¬ e.Given now v) : Means now text (.raw text)
  | progress {v : Json} {status node : Option String} (object : SpellsObject text v)
      (untyped : ∀ type ∈ knownTypes, v.field? "type" ≠ some (.str type))
      (atStatus : TextAt "status" v status) (atNode : TextAt "current_node" v node)
      (told : status ≠ none ∨ node ≠ none) : Means now text (.progress status node)
  | silent {v : Json} (object : SpellsObject text v)
      (untyped : ∀ type ∈ knownTypes, v.field? "type" ≠ some (.str type))
      (atStatus : TextAt "status" v none) (atNode : TextAt "current_node" v none) :
      Means now text .silent

variable {now text key : String} {v : Json} {f : Frame}

/-! ### The type -/

theorem textField_eq_iff {o : Option String} : textField key v = o ↔ TextAt key v o := by
  have field (s : String) : textField key v = some s ↔ v.field? key = some (.str s) := by
    constructor
    · intro h
      obtain ⟨w, there, text⟩ := Option.bind_eq_some_iff.1 h
      cases w <;> cases text
      exact there
    · exact textField_of_str
  constructor
  · rintro rfl
    exact field
  · intro at'
    cases o with
    | none =>
      cases found : textField key v with
      | none => rfl
      | some s => cases (at' s).2 ((field s).1 found)
    | some s => exact (field s).2 ((at' s).1 rfl)

theorem ofName?_eq_some_iff {type : String} {kind : LoopKind} :
    LoopKind.ofName? type = some kind ↔ type = kind.name := by
  constructor
  · intro found
    have same := List.find?_some found
    exact (eq_of_beq same).symm
  · rintro rfl
    exact LoopKind.ofName?_name kind

/-- The name of every kind is a known type. -/
theorem name_mem_knownTypes (kind : LoopKind) : kind.name ∈ knownTypes := by
  cases kind <;> decide

/-- An object calls itself a round of questions, or an event of some kind, or has no known type. -/
theorem type_cases (v : Json) :
    v.field? "type" = some (.str "clarification_needed") ∨
      (∃ kind : LoopKind, v.field? "type" = some (.str kind.name)) ∨
        ∀ type ∈ knownTypes, v.field? "type" ≠ some (.str type) := by
  by_cases asks : v.field? "type" = some (.str "clarification_needed")
  · exact Or.inl asks
  by_cases tells : ∃ kind : LoopKind, v.field? "type" = some (.str kind.name)
  · exact Or.inr (Or.inl tells)
  refine Or.inr (Or.inr fun type mem same => ?_)
  simp only [knownTypes, List.mem_cons, List.not_mem_nil, or_false] at mem
  rcases mem with rfl | rfl | rfl | rfl
  · exact asks same
  · exact tells ⟨.queued, same⟩
  · exact tells ⟨.started, same⟩
  · exact tells ⟨.completed, same⟩

theorem ofObject?_of_asking (type : v.field? "type" = some (.str "clarification_needed")) :
    ofObject? now v = (Session.decode v).toOption.map .clarification := by
  rw [ofObject?, textField_of_str type]
  rfl

theorem ofObject?_of_telling {kind : LoopKind} (type : v.field? "type" = some (.str kind.name)) :
    ofObject? now v = (LoopEvent.decode kind now v).toOption.map .loop := by
  rw [ofObject?, textField_of_str type]
  simp only [name_ne_clarificationType, if_false, LoopKind.ofName?_name]

theorem ofObject?_of_untyped
    (untyped : ∀ type ∈ knownTypes, v.field? "type" ≠ some (.str type)) :
    ofObject? now v = some (ofUntyped v) := by
  rw [ofObject?]
  cases found : textField "type" v with
  | none => rfl
  | some type =>
    have there : v.field? "type" = some (.str type) := (textField_eq_iff.1 found type).1 rfl
    have other : type ≠ clarificationType := fun same =>
      untyped "clarification_needed" (by decide) (there.trans (by rw [same]; rfl))
    have unnamed : LoopKind.ofName? type = none := by
      cases named : LoopKind.ofName? type with
      | none => rfl
      | some kind =>
        rw [ofName?_eq_some_iff.1 named] at there
        exact absurd there (untyped kind.name (name_mem_knownTypes kind))
    simp only [other, if_false, unnamed]

/-! ### The whole frame -/

theorem read_of_object (object : SpellsObject text v) :
    read now text = (ofObject? now v).getD (.raw text) := by
  obtain ⟨parsed, object⟩ := object
  cases v with
  | obj members => rw [read, parsed]
  | _ => cases object

theorem read_of_noObject (lacking : ∀ v, ¬ SpellsObject text v) : read now text = .raw text := by
  rw [read]
  split
  · next members parsed => exact absurd ⟨parsed, rfl⟩ (lacking (.obj members))
  · rfl

/-- A text is read as what it means. -/
theorem Means.read_eq (means : Means now text f) : read now text = f := by
  cases means with
  | noObject lacking => exact read_of_noObject lacking
  | clarification object type given =>
    rw [read_of_object object, ofObject?_of_asking type, Session.decode_eq_ok_iff.2 given]
    rfl
  | noClarification object type lacking =>
    have failed := toOption_eq_none_iff.2 fun s read => lacking s (Session.decode_eq_ok_iff.1 read)
    rw [read_of_object object, ofObject?_of_asking type, failed]
    rfl
  | loop object type given =>
    rw [read_of_object object, ofObject?_of_telling type, LoopEvent.decode_eq_ok_iff.2 ⟨rfl, given⟩]
    rfl
  | @noLoop v kind object type lacking =>
    have failed : (LoopEvent.decode kind now v).toOption = none :=
      toOption_eq_none_iff.2 fun e read => lacking e (LoopEvent.decode_eq_ok_iff.1 read).2
    rw [read_of_object object, ofObject?_of_telling type, failed]
    rfl
  | progress object untyped atStatus atNode told =>
    rw [read_of_object object, ofObject?_of_untyped untyped, ofUntyped,
      textField_eq_iff.2 atStatus, textField_eq_iff.2 atNode]
    refine if_pos ?_
    rcases told with there | there
    · rw [Option.isSome_iff_ne_none.2 there]
      rfl
    · rw [Option.isSome_iff_ne_none.2 there, Bool.or_true]
  | silent object untyped atStatus atNode =>
    rw [read_of_object object, ofObject?_of_untyped untyped, ofUntyped,
      textField_eq_iff.2 atStatus, textField_eq_iff.2 atNode]
    rfl

/-- Every text means something. -/
theorem exists_means (now text : String) : ∃ f, Means now text f := by
  by_cases spelled : ∃ v, SpellsObject text v
  · obtain ⟨v, object⟩ := spelled
    rcases type_cases v with asks | ⟨kind, tells⟩ | untyped
    · by_cases given : ∃ s : Session, s.Given v
      · obtain ⟨s, given⟩ := given
        exact ⟨_, .clarification object asks given⟩
      · exact ⟨_, .noClarification object asks fun s h => given ⟨s, h⟩⟩
    · by_cases given : ∃ e : LoopEvent, e.Given now v
      · obtain ⟨e, given⟩ := given
        exact ⟨_, .loop (e := { e with kind }) object tells ⟨given.1, given.2, given.3, given.4⟩⟩
      · exact ⟨_, .noLoop object tells fun e h => given ⟨e, h⟩⟩
    · have status : TextAt "status" v (textField "status" v) := textField_eq_iff.1 rfl
      have node : TextAt "current_node" v (textField "current_node" v) := textField_eq_iff.1 rfl
      by_cases nothing : textField "status" v = none ∧ textField "current_node" v = none
      · rw [nothing.1] at status
        rw [nothing.2] at node
        exact ⟨_, .silent object untyped status node⟩
      · exact ⟨_, .progress object untyped status node (Classical.not_and_iff_not_or_not.1 nothing)⟩
  · exact ⟨_, .noObject fun v object => spelled ⟨v, object⟩⟩

theorem means_read (now text : String) : Means now text (read now text) := by
  obtain ⟨f, means⟩ := exists_means now text
  rw [means.read_eq]
  exact means

theorem SpellsObject.eq {w : Json} (object : SpellsObject text v) (other : SpellsObject text w) :
    v = w :=
  Option.some.inj (object.1.symm.trans other.1)

/-- An object that calls itself a round of questions is read as the one that its fields make. -/
theorem read_eq_clarification_iff {s : Session} (object : SpellsObject text v)
    (type : v.field? "type" = some (.str "clarification_needed")) :
    read now text = .clarification s ↔ s.Given v := by
  constructor
  · intro read
    have means := means_read now text
    rw [read] at means
    cases means with
    | clarification object' _ given =>
      rw [object.eq object']
      exact given
  · intro given
    exact (Means.clarification object type given).read_eq

/-- **What a text of the channel means.**  Every text is read as the one thing that it means; and an
object with a known type is no report of progress, whatever other fields it has. -/
theorem read_eq_iff_means (now text : String) :
    (∀ f, read now text = f ↔ Means now text f) ∧
      ∀ v type, SpellsObject text v → type ∈ knownTypes → v.field? "type" = some (.str type) →
        ∀ status node, read now text ≠ .progress status node := by
  refine ⟨fun f => ⟨fun same => same ▸ means_read now text, Means.read_eq⟩, ?_⟩
  intro v type object known there status node progress
  have means := means_read now text
  rw [progress] at means
  cases means with
  | progress object' untyped =>
    cases object.eq object'
    exact untyped type known there

end Frame

/-- A round that does not fit, in an object that also has a status: the text is kept as it is. -/
theorem Frame.read_eq_iff_means_overflowing :
    let text := "\x7b\"type\":\"clarification_needed\",\"session_id\":\"s1\",\"round\":4294967296,"
      ++ "\"status\":\"done\"\x7d"
    Frame.Means "now" text (.raw text) ∧
      ∀ status node, Frame.read "now" text ≠ .progress status node := by
  intro text
  have spelled : Json.parse? text = some (.obj [("round", .ofNat 4294967296),
      ("session_id", .str "s1"), ("status", .str "done"),
      ("type", .str "clarification_needed")]) := by decide +kernel
  obtain ⟨means, progress⟩ := Frame.read_eq_iff_means "now" text
  have read : Frame.read "now" text = .raw text := by decide +kernel
  exact ⟨(means _).1 read, progress _ "clarification_needed" ⟨spelled, rfl⟩ (by decide) rfl⟩

end VoiceTicket
