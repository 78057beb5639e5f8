/-
  What goes over the wire and back.

  1. **Data** — `LoopEvent.toJson` and `Session.members` are what a writer makes of an event and of
     a round of questions; a message that carries a round has one member more, which says what the
     message is (`type` in a frame, `status` in a reply).

  2. **Specification** — `Frame.read_render`: an event is read back from its own text, by the
     channel and straight from the text; a round of questions is read back alike from a frame and
     from a reply, in whatever order its members stand, with its rounds counted from one
     (`Session.counted`).

  3. **The crux (`Stream.object_of_fills`)** — the reader that goes through a text member by member
     keeps what it has read in a `Partial`; one induction over the members says what the whole
     object leaves in it.  All other readings only look at fields, and those come through
     (`Json.field?_sorted`).
-/
import VoiceTicket.Frame
import VoiceTicket.LoopEvent.Stream
import VoiceTicket.Outcome
import VoiceTicket.Proofs.Settings.Reading

namespace VoiceTicket

/-! ## Values that are written -/

namespace Json

theorem legibleMembers_iff (nesting : Nat) (ms : List (String × Json)) :
    LegibleMembers nesting ms ↔ ∀ m ∈ ms, Legible nesting m.2 := by
  induction ms with
  | nil => simp [LegibleMembers]
  | cons m ms ih =>
    obtain ⟨k, v⟩ := m
    rw [LegibleMembers, ih, List.forall_mem_cons]

theorem legible_ofOption {α : Type} {f : α → Json} {nesting : Nat}
    (each : ∀ a, Legible nesting (f a)) (o : Option α) : Legible nesting (ofOption f o) := by
  cases o with
  | none => trivial
  | some a => exact each a

theorem legibleItems_str (nesting : Nat) (texts : List String) :
    LegibleItems nesting (texts.map .str) := by
  induction texts with
  | nil => trivial
  | cons s texts ih => exact ⟨trivial, ih⟩

theorem sortedItems_str (texts : List String) : sortedItems (texts.map .str) = texts.map .str := by
  induction texts with
  | nil => rfl
  | cons s texts ih =>
    rw [List.map_cons, sortedItems, ih]
    rfl

theorem sorted_ofOption {α : Type} {f : α → Json} (each : ∀ a, (f a).sorted = f a) (o : Option α) :
    (ofOption f o).sorted = ofOption f o := by
  cases o with
  | none => rfl
  | some a => exact each a

namespace Decoder

theorem nullable_ofOption {α : Type} {inner : Decoder α} {f : α → Json}
    (reads : ∀ a, inner (f a) = .ok a) (there : ∀ a, f a ≠ .null) (o : Option α) :
    nullable inner (ofOption f o) = .ok o := by
  cases o with
  | none => rfl
  | some a =>
    have read : nullable inner (f a) = (inner (f a)).map some := by
      rw [nullable]
      exact there a
    show nullable inner (f a) = _
    rw [read, reads]
    rfl

theorem list_text (texts : List String) : list text (.arr (texts.map .str)) = .ok texts := by
  show (texts.map Json.str).mapM text = _
  induction texts with
  | nil => rfl
  | cons s texts ih =>
    rw [List.map_cons, List.mapM_cons, ih]
    rfl

end Decoder

end Json

/-! ## Reading an event from its text -/

namespace LoopEvent.Stream

open Json (Apart Legible quote render renderMembers)

variable {α : Type} {inner : Stream α} {a : α} {v : Json} {rest : List Char}

/-- A stream takes a value off the front of every text that begins with its spelling. -/
def Takes (inner : Stream α) (a : α) (v : Json) : Prop :=
  ∀ rest, Apart rest → inner (v.render.toList ++ rest) = .ok (a, rest)

theorem takes_text (s : String) : Takes text s (.str s) := by
  intro rest apart
  have read := (Json.spells_quote s).reads rest apart
  show text ((quote s).toList ++ rest) = _
  rw [Json.toList_quote] at read ⊢
  show ofReader Json.Reader.string _ = _
  rw [ofReader, read]

theorem takes_kind (k : LoopKind) : Takes loopKind k (.str k.name) := by
  intro rest apart
  have name := takes_text k.name rest apart
  have known : kindNamed k.name = .ok k := by rw [kindNamed, LoopKind.ofName?_name]
  show loopKind ((quote k.name).toList ++ rest) = _
  have read : text ((quote k.name).toList ++ rest) = .ok (k.name, rest) := name
  rw [Json.toList_quote] at read ⊢
  show (text _ >>= _) = _
  rw [read]
  show (kindNamed k.name >>= _) = _
  rw [known]
  rfl

theorem takes_boolean (b : Bool) : Takes boolean b (.bool b) := by
  intro rest _
  cases b <;> rfl

/-- What may be missing is taken as it was written, if it does not look like `null`. -/
theorem takes_nullable {f : α → Json} (each : ∀ a, Takes inner a (f a))
    (begins : ∀ a, ∃ c cs, (f a).render.toList = c :: cs ∧ c ≠ 'n') (o : Option α) :
    Takes (nullable inner) o (.ofOption f o) := by
  intro rest apart
  cases o with
  | none =>
    have written : (Json.ofOption f none).render = "null" := by rw [Json.ofOption, render]
    have read : nothing ('n' :: 'u' :: 'l' :: 'l' :: rest) = .ok ((), rest) := rfl
    rw [written]
    show nullable inner ('n' :: 'u' :: 'l' :: 'l' :: rest) = _
    rw [nullable, read]
    rfl
  | some a =>
    obtain ⟨c, cs, front, other⟩ := begins a
    have read := each a rest apart
    show nullable inner ((f a).render.toList ++ rest) = _
    rw [front, List.cons_append] at read ⊢
    rw [nullable, read]
    · rfl
    · intro cs' same
      exact other (List.cons.inj same).1

theorem takes_nullable_text (o : Option String) : Takes (nullable text) o (.ofOption .str o) :=
  takes_nullable takes_text (fun s => ⟨'"', _, Json.toList_quote s, by decide⟩) o

theorem takes_nullable_boolean (o : Option Bool) : Takes (nullable boolean) o (.ofOption .bool o) :=
  takes_nullable takes_boolean (fun b => by cases b <;> exact ⟨_, _, rfl, by decide⟩) o

/-- A value behind its colon. -/
theorem once_of_takes (takes : Takes inner a v) (legible : Legible 0 v) (apart : Apart rest) :
    once none inner (':' :: (v.render.toList ++ rest)) = .ok (a, rest) := by
  have front := (Json.spells_render v 0 legible).skipSpace_append rest
  have mark : colon (':' :: (v.render.toList ++ rest)) = .ok (v.render.toList ++ rest) := by
    have read := Json.colon_append Json.blank_nil Json.blank_nil front
    rw [List.nil_append, List.nil_append] at read
    rw [colon, read]
  show (do inner (← colon _)) = _
  rw [mark]
  exact takes rest apart

/-- Some members of an object, read one after the other, lead from what was read before to what has
been read then. -/
def Partial.Fills (p : Partial) : List (String × Json) → Partial → Prop
  | [], p' => p' = p
  | (k, v) :: ms, p' => ∃ q : Partial,
      (∀ rest, Apart rest → p.read k (':' :: (v.render.toList ++ rest)) = .ok (q, rest)) ∧
        q.Fills ms p'

/-- What follows on a member: the others behind their commas, and the brace. -/
def behind (rest : List Char) : List (String × Json) → List Char
  | [] => '}' :: rest
  | (k, v) :: ms => ',' :: ((quote k).toList ++ ':' :: (v.render.toList ++ behind rest ms))

theorem apart_behind (rest : List Char) (ms : List (String × Json)) : Apart (behind rest ms) := by
  cases ms with
  | nil => exact Json.apart_cons (by decide) rest
  | cons m ms => exact Json.apart_cons (by decide) _

theorem renderMembers_behind (k : String) (v : Json) (ms : List (String × Json))
    (rest : List Char) :
    (renderMembers ((k, v) :: ms)).toList ++ '}' :: rest =
      (quote k).toList ++ ':' :: (v.render.toList ++ behind rest ms) := by
  induction ms generalizing k v with
  | nil =>
    rw [Json.toList_renderMembers_singleton]
    simp [behind]
  | cons m ms ih =>
    obtain ⟨k', v'⟩ := m
    rw [Json.toList_renderMembers_cons, List.append_assoc, List.cons_append, ih, behind]
    simp

/-- The key of a member is read, whether the member is the first one or stands behind a comma. -/
theorem nextKey_quote (k : String) (rest : List Char) :
    nextKey true ((quote k).toList ++ ':' :: rest) = .ok (some k, ':' :: rest) ∧
      nextKey false (',' :: ((quote k).toList ++ ':' :: rest)) = .ok (some k, ':' :: rest) := by
  have sign : Apart (':' :: rest) := Json.apart_cons (by decide) rest
  have front := (Json.spells_quote k).skipSpace_append (':' :: rest)
  have read := (Json.spells_quote k).reads (':' :: rest) sign
  have key : ofReader Json.Reader.string ((quote k).toList ++ ':' :: rest) =
      .ok (k, ':' :: rest) := by rw [ofReader, read]
  have comma : Json.Reader.skipSpace (',' :: ((quote k).toList ++ ':' :: rest)) =
      ',' :: ((quote k).toList ++ ':' :: rest) := Json.skipSpace_cons (by decide) _
  constructor
  · rw [nextKey, front]
    rw [Json.toList_quote, List.cons_append] at key ⊢
    show (ofReader Json.Reader.string _).map _ = _
    rw [key]
    rfl
  · rw [nextKey, comma]
    show (ofReader Json.Reader.string (Json.Reader.skipSpace _)).map _ = _
    rw [front, key]
    rfl

/-- The members behind the first one. -/
theorem object_behind {p p' : Partial} {ms : List (String × Json)} (fills : p.Fills ms p')
    {bound : Nat} (enough : ms.length < bound) (rest : List Char) :
    object bound false p (behind rest ms) = p'.event.map (·, rest) := by
  induction ms generalizing p bound with
  | nil =>
    obtain ⟨bound, rfl⟩ := Nat.exists_eq_add_of_lt enough
    have same : p' = p := fills
    have done : nextKey false ('}' :: rest) = .ok (none, rest) := rfl
    rw [same, behind, object, done]
    show (p.event >>= _) = _
    cases p.event <;> rfl
  | cons m ms ih =>
    obtain ⟨k, v⟩ := m
    obtain ⟨q, reads, fills⟩ := fills
    obtain ⟨bound, rfl⟩ : ∃ b, bound = b + 1 := ⟨bound - 1, by omega⟩
    have fewer : ms.length < bound := by
      simp only [List.length_cons] at enough
      omega
    have key := (nextKey_quote k (v.render.toList ++ behind rest ms)).2
    have value := reads _ (apart_behind rest ms)
    have others := ih fills fewer
    rw [behind, object, key]
    show (p.read k _ >>= _) = _
    rw [value]
    exact others

/-- **A whole object**: what its members leave is what is made of it. -/
theorem object_of_fills {p p' : Partial} {k : String} {v : Json} {ms : List (String × Json)}
    (fills : p.Fills ((k, v) :: ms) p') {bound : Nat} (enough : ms.length + 1 < bound)
    (rest : List Char) :
    object bound true p ((renderMembers ((k, v) :: ms)).toList ++ '}' :: rest) =
      p'.event.map (·, rest) := by
  obtain ⟨q, reads, fills⟩ := fills
  obtain ⟨bound, rfl⟩ : ∃ b, bound = b + 1 := ⟨bound - 1, by omega⟩
  have key := (nextKey_quote k (v.render.toList ++ behind rest ms)).1
  have value := reads _ (apart_behind rest ms)
  have fewer : ms.length < bound := by omega
  have others := object_behind fills fewer rest
  rw [renderMembers_behind, object, key]
  show (p.read k _ >>= _) = _
  rw [value]
  exact others

end LoopEvent.Stream

/-! ## Values that have some fields -/

namespace Json

/-- A value has some members among its fields. -/
def Has (w : Json) (ms : List (String × Json)) : Prop := ∀ m ∈ ms, w.field? m.1 = some m.2

theorem has_obj {ms : List (String × Json)} (distinct : (ms.map Prod.fst).Nodup) :
    (Json.obj ms).Has ms := by
  intro m mem
  exact find?_of_mem distinct mem

/-- What was written has all its fields when it is read back. -/
theorem has_sorted {ms : List (String × Json)} (distinct : (ms.map Prod.fst).Nodup)
    (plain : ∀ m ∈ ms, m.2.sorted = m.2) : (Json.obj ms).sorted.Has ms := by
  intro m mem
  rw [field?_sorted distinct, find?_of_mem distinct mem, Option.map_some, plain m mem]

end Json

/-! ## Events -/

namespace LoopEvent

/-- The members of an event that is written. -/
def members (e : LoopEvent) : List (String × Json) :=
  [("type", .str e.kind.name),
    ("issue_key", .str e.issue),
    ("summary", .ofOption .str e.summary),
    ("success", .ofOption .bool e.success),
    ("timestamp", .str e.timestamp)]

theorem distinct_members (e : LoopEvent) : (e.members.map Prod.fst).Nodup := by
  show ["type", "issue_key", "summary", "success", "timestamp"].Nodup
  decide

theorem plain_members (e : LoopEvent) : ∀ m ∈ e.members, m.2.sorted = m.2 := by
  have summary := Json.sorted_ofOption (f := .str) (fun _ => rfl) e.summary
  have success := Json.sorted_ofOption (f := .bool) (fun _ => rfl) e.success
  intro m mem
  simp only [members, List.mem_cons, List.not_mem_nil, or_false] at mem
  rcases mem with rfl | rfl | rfl | rfl | rfl
  · rfl
  · rfl
  · exact summary
  · exact success
  · rfl

theorem legible_members (e : LoopEvent) (nesting : Nat) :
    ∀ m ∈ e.members, Json.Legible nesting m.2 := by
  have summary : Json.Legible nesting (.ofOption .str e.summary) :=
    Json.legible_ofOption (f := .str) (fun _ => trivial) _
  have success : Json.Legible nesting (.ofOption .bool e.success) :=
    Json.legible_ofOption (f := .bool) (fun _ => trivial) _
  intro m mem
  simp only [members, List.mem_cons, List.not_mem_nil, or_false] at mem
  rcases mem with rfl | rfl | rfl | rfl | rfl
  · trivial
  · trivial
  · exact summary
  · exact success
  · trivial

/-- An event is read from any value that has its fields. -/
theorem decode_of_has {w : Json} {e : LoopEvent} (has : w.Has e.members) (now : String) :
    decode e.kind now w = .ok e := by
  have issue : w.field? "issue_key" = some (.str e.issue) :=
    has ("issue_key", _) (by simp [members])
  have summary : w.field? "summary" = some (.ofOption .str e.summary) :=
    has ("summary", .ofOption .str e.summary) (by simp [members])
  have success : w.field? "success" = some (.ofOption .bool e.success) :=
    has ("success", .ofOption .bool e.success) (by simp [members])
  have timestamp : w.field? "timestamp" = some (.str e.timestamp) :=
    has ("timestamp", _) (by simp [members])
  have text (s : String) : Json.Decoder.text (.str s) = .ok s := rfl
  have boolean (b : Bool) : Json.Decoder.boolean (.bool b) = .ok b := rfl
  have summaryRead := Json.Decoder.nullable_ofOption text (fun _ => nofun) e.summary
  have successRead := Json.Decoder.nullable_ofOption boolean (fun _ => nofun) e.success
  simp only [decode, Json.Decoder.present_of_some issue, Json.Decoder.present_of_some success,
    Json.Decoder.present_of_some summary, Json.Decoder.present_of_some timestamp, summaryRead,
    successRead]
  rfl

/-- The members of an event, read one after the other, are the event. -/
theorem fills_members (e : LoopEvent) :
    Stream.Partial.empty.Fills e.members
      ⟨some e.kind, some e.issue, some e.summary, some e.success, some e.timestamp⟩ := by
  have summary : Json.Legible 0 (.ofOption .str e.summary) :=
    Json.legible_ofOption (f := .str) (fun _ => trivial) _
  have success : Json.Legible 0 (.ofOption .bool e.success) :=
    Json.legible_ofOption (f := .bool) (fun _ => trivial) _
  refine ⟨⟨some e.kind, none, none, none, none⟩, fun rest apart => ?_,
    ⟨some e.kind, some e.issue, none, none, none⟩, fun rest apart => ?_,
    ⟨some e.kind, some e.issue, some e.summary, none, none⟩, fun rest apart => ?_,
    ⟨some e.kind, some e.issue, some e.summary, some e.success, none⟩, fun rest apart => ?_,
    _, fun rest apart => ?_, rfl⟩
  · have read := Stream.once_of_takes (Stream.takes_kind e.kind) trivial apart
    simp only [Stream.Partial.read, Stream.Partial.empty, read]
    rfl
  · have read := Stream.once_of_takes (Stream.takes_text e.issue) trivial apart
    simp only [Stream.Partial.read, read]
    rfl
  · have read := Stream.once_of_takes (Stream.takes_nullable_text e.summary) summary apart
    simp only [Stream.Partial.read, read]
    rfl
  · have read := Stream.once_of_takes (Stream.takes_nullable_boolean e.success) success apart
    simp only [Stream.Partial.read, read]
    rfl
  · have read := Stream.once_of_takes (Stream.takes_text e.timestamp) trivial apart
    simp only [Stream.Partial.read, read]
    rfl

/-- **An event is read back straight from its text.** -/
theorem parse_render (e : LoopEvent) : parse e.toJson.render = .ok e := by
  have text : e.toJson.render.toList = '{' :: ((Json.renderMembers e.members).toList ++ ['}']) :=
    Json.toList_render_obj e.members
  have enough : 4 + 1 < ((Json.renderMembers e.members).toList ++ ['}']).length + 1 := by
    have first : (Json.quote "type").toList.length = 6 := by decide
    rw [members, Stream.renderMembers_behind, List.length_append, first]
    omega
  have whole := Stream.object_of_fills e.fills_members enough []
  have brace : Json.Reader.skipSpace e.toJson.render.toList =
      '{' :: ((Json.renderMembers e.members).toList ++ ['}']) := by
    rw [text, Json.skipSpace_cons (by decide)]
  have read : Stream.event (Json.Reader.skipSpace e.toJson.render.toList) = .ok (e, []) := by
    rw [brace]
    exact whole
  rw [parse, read]
  rfl

end LoopEvent

/-! ## Rounds of questions -/

namespace Session

/-- The session with its rounds counted from one. -/
def counted (s : Session) : Session := { s with round := max s.round 1 }

theorem round_counted (s : Session) : UInt32.ofNat (max s.round.toNat 1) = s.counted.round := by
  show _ = max s.round 1
  have one : (1 : UInt32).toNat = 1 := rfl
  rcases Nat.lt_or_ge s.round.toNat 1 with none | some
  · have zero : s.round = 0 := by
      apply UInt32.toNat_inj.1
      show s.round.toNat = 0
      omega
    rw [zero]
    rfl
  · have le : (1 : UInt32) ≤ s.round := by
      rw [UInt32.le_iff_toNat_le, one]
      exact some
    have greater : max s.round 1 = s.round := by
      show (if s.round ≤ 1 then 1 else s.round) = s.round
      split
      · exact UInt32.le_antisymm le ‹_›
      · rfl
    rw [Nat.max_eq_left some, UInt32.ofNat_toNat, greater]

theorem distinct_members (s : Session) (mark : String)
    (other : mark ∉ ["session_id", "questions", "partial_summary", "round"]) (v : Json) :
    (((mark, v) :: s.members).map Prod.fst).Nodup := by
  show (mark :: ["session_id", "questions", "partial_summary", "round"]).Nodup
  exact List.nodup_cons.2 ⟨other, by decide⟩

theorem plain_members (s : Session) : ∀ m ∈ s.members, m.2.sorted = m.2 := by
  have questions := Json.sortedItems_str s.questions
  intro m mem
  simp only [members, List.mem_cons, List.not_mem_nil, or_false] at mem
  rcases mem with rfl | rfl | rfl | rfl
  · rfl
  · rw [Json.sorted, questions]
  · rfl
  · rfl

theorem legible_members (s : Session) {nesting : Nat} (room : 0 < nesting) :
    ∀ m ∈ s.members, Json.Legible nesting m.2 := by
  have questions := Json.legibleItems_str (nesting - 1) s.questions
  have round : Json.FitsWord s.round.toNat := by
    apply Settings.fitsWord_of_lt
    exact Nat.lt_trans s.round.toNat_lt (by decide)
  intro m mem
  simp only [members, List.mem_cons, List.not_mem_nil, or_false] at mem
  rcases mem with rfl | rfl | rfl | rfl
  · trivial
  · exact ⟨room, questions⟩
  · trivial
  · exact round

/-- A session is read from any value that has its fields. -/
theorem decode_of_has {w : Json} {s : Session} (has : w.Has s.members) :
    decode w = .ok s.counted := by
  have id : w.field? "session_id" = some (.str s.id) :=
    has ("session_id", _) (by simp [members])
  have questions : w.field? "questions" = some (.arr (s.questions.map .str)) :=
    has ("questions", _) (by simp [members])
  have summary : w.field? "partial_summary" = some (.str s.summary) :=
    has ("partial_summary", _) (by simp [members])
  have round : w.field? "round" = some (.ofNat s.round.toNat) :=
    has ("round", .ofNat s.round.toNat) (by simp [members])
  have small : s.round.toNat < Nat.pow 2 32 := s.round.toNat_lt
  have roundRead : Json.Decoder.unsigned 32 (.ofNat s.round.toNat) = .ok s.round.toNat :=
    Json.Decoder.unsigned_eq_ok_iff.2 ⟨rfl, small⟩
  have nullableRead : Json.Decoder.nullable (.unsigned 32) (.ofNat s.round.toNat) =
      .ok (some s.round.toNat) := by
    show (Json.Decoder.unsigned 32 (.ofNat s.round.toNat)).map some = _
    rw [roundRead]
    rfl
  simp only [decode, Json.Decoder.present_of_some id, Json.Decoder.present_of_some questions,
    Json.Decoder.present_of_some summary, Json.Decoder.present_of_some round, nullableRead,
    Json.Decoder.list_text]
  show Except.ok (⟨s.id, s.questions, s.summary, UInt32.ofNat (max s.round.toNat 1)⟩ : Session) = _
  rw [round_counted]
  rfl

/-- The members of a session and one more that says what the message is. -/
def marked (s : Session) (mark word : String) : List (String × Json) :=
  (mark, .str word) :: s.members

variable {s : Session} {mark word : String} {ms : List (String × Json)}

theorem distinct_marked (perm : ms.Perm (s.marked mark word))
    (other : mark ∉ ["session_id", "questions", "partial_summary", "round"]) :
    (ms.map Prod.fst).Nodup := by
  have keys : (ms.map Prod.fst).Perm ((s.marked mark word).map Prod.fst) := perm.map Prod.fst
  exact keys.nodup_iff.2 (s.distinct_members mark other (.str word))

theorem plain_marked (perm : ms.Perm (s.marked mark word)) : ∀ m ∈ ms, m.2.sorted = m.2 := by
  intro m mem
  rcases List.mem_cons.1 (perm.mem_iff.1 mem) with rfl | mem
  · rfl
  · exact s.plain_members m mem

theorem legible_marked (perm : ms.Perm (s.marked mark word)) :
    Json.Legible Json.maxNesting (.obj ms) := by
  refine ⟨by decide, (Json.legibleMembers_iff _ ms).2 fun m mem => ?_⟩
  rcases List.mem_cons.1 (perm.mem_iff.1 mem) with rfl | mem
  · trivial
  · exact s.legible_members (by decide) m mem

/-- A value that has the members of a message has those of its session, and the mark. -/
theorem has_of_perm {w : Json} (has : w.Has ms) (perm : ms.Perm (s.marked mark word)) :
    w.Has s.members ∧ w.field? mark = some (.str word) := by
  constructor
  · intro m mem
    exact has m (perm.mem_iff.2 (List.mem_cons_of_mem _ mem))
  · exact has (mark, .str word) (perm.mem_iff.2 List.mem_cons_self)

end Session

/-! ## Frames and replies -/

namespace Frame

theorem read_render_obj {ms : List (String × Json)}
    (legible : Json.Legible Json.maxNesting (.obj ms))
    (now : String) : read now (Json.obj ms).render =
      (ofObject? now (Json.obj ms).sorted).getD (.raw (Json.obj ms).render) := by
  rw [read, Json.parse?_render legible]
  rfl

theorem textField_of_str {key word : String} {w : Json} (field : w.field? key = some (.str word)) :
    textField key w = some word := by
  rw [textField, field]
  rfl

theorem name_ne_clarificationType (k : LoopKind) : k.name ≠ clarificationType := by
  cases k <;> decide

theorem read_loopEvent (now : String) (e : LoopEvent) : read now e.toJson.render = .loop e := by
  have legible : Json.Legible Json.maxNesting (.obj e.members) :=
    ⟨by decide, (Json.legibleMembers_iff _ _).2 (e.legible_members _)⟩
  have has := Json.has_sorted e.distinct_members e.plain_members
  have type := textField_of_str (has ("type", .str e.kind.name) List.mem_cons_self)
  have decoded := LoopEvent.decode_of_has has now
  show read now (Json.obj e.members).render = _
  rw [read_render_obj legible, ofObject?, type]
  simp only [name_ne_clarificationType, if_false, LoopKind.ofName?_name, decoded]
  rfl

theorem read_session (now : String) {s : Session} {ms : List (String × Json)}
    (perm : ms.Perm (s.marked "type" clarificationType)) :
    read now (Json.obj ms).render = .clarification s.counted := by
  have distinct := Session.distinct_marked perm (by decide)
  have has := Json.has_sorted distinct (Session.plain_marked perm)
  obtain ⟨fields, mark⟩ := Session.has_of_perm has perm
  have type := textField_of_str mark
  have decoded := Session.decode_of_has fields
  rw [read_render_obj (Session.legible_marked perm), ofObject?, type]
  simp only [if_true, decoded]
  rfl

end Frame

namespace Outcome

/-- A reply with the members of a session and no score is that session. -/
theorem ofJson_of_has {w : Json} {s : Session} (object : w.isObject = true) (has : w.Has s.members)
    (status : w.field? "status" = some (.str "clarification_needed"))
    (scoreless : w.field? "ambiguity_score" = none) :
    ofJson w = .ok (.clarification s.counted none) := by
  have asks : asksForClarification w = true := by rw [asksForClarification, status]; rfl
  rw [ofJson, object, asks, Session.decode_of_has has, scoreless]
  rfl

theorem ofJson_session {s : Session} {ms : List (String × Json)}
    (perm : ms.Perm (s.marked "status" Frame.clarificationType)) :
    ofJson (.obj ms) = .ok (.clarification s.counted none) ∧
      (Json.parse? (Json.obj ms).render).map ofJson =
        some (.ok (.clarification s.counted none)) := by
  have distinct := Session.distinct_marked perm (by decide)
  have unscored : "ambiguity_score" ∉ ms.map Prod.fst := by
    rw [(perm.map Prod.fst).mem_iff]
    show "ambiguity_score" ∉ ["status", "session_id", "questions", "partial_summary", "round"]
    decide
  have absent := Json.find?_of_not_mem unscored
  constructor
  · obtain ⟨fields, status⟩ := Session.has_of_perm (Json.has_obj distinct) perm
    exact ofJson_of_has rfl fields status absent
  · have has := Json.has_sorted distinct (Session.plain_marked perm)
    obtain ⟨fields, status⟩ := Session.has_of_perm has perm
    have scoreless : (Json.obj ms).sorted.field? "ambiguity_score" = none := by
      rw [Json.field?_sorted distinct, absent]
      rfl
    rw [Json.parse?_render (Session.legible_marked perm), Option.map_some,
      ofJson_of_has rfl fields status scoreless]

end Outcome

/-- **Reading undoes writing.**  An event comes back from its own text, as a frame of the channel at
whatever time and straight from the text.  A round of questions comes back from any object that has
its members and says that it is one, in whatever order they stand: as a frame where the object says
so under `type`, as an outcome where it says so under `status`, and it is the same session, with its
rounds counted from one. -/
theorem Frame.read_render :
    (∀ (now : String) (e : LoopEvent),
      Frame.read now e.toJson.render = .loop e ∧ LoopEvent.parse e.toJson.render = .ok e) ∧
    (∀ (now : String) (s : Session) (framed replied : List (String × Json)),
      framed.Perm (("type", .str "clarification_needed") :: s.members) →
      replied.Perm (("status", .str "clarification_needed") :: s.members) →
        Frame.read now (Json.obj framed).render = .clarification { s with round := max s.round 1 } ∧
        Outcome.ofJson (.obj replied) =
          .ok (.clarification { s with round := max s.round 1 } none) ∧
        (Json.parse? (Json.obj replied).render).map Outcome.ofJson =
          some (.ok (.clarification { s with round := max s.round 1 } none))) := by
  constructor
  · intro now e
    exact ⟨Frame.read_loopEvent now e, e.parse_render⟩
  · intro now s framed replied frame reply
    have read : Frame.read now (Json.obj framed).render = .clarification s.counted :=
      Frame.read_session now frame
    exact ⟨read, Outcome.ofJson_session reply⟩

/-- A session whose texts need escapes, with its members in the order of their keys. -/
theorem Frame.read_escaped :
    let s : Session := ⟨"s\u0001", ["\"größe\"?\n", "a\\b"], "\u2028é", 0⟩
    let asked : Json := .arr [.str "\"größe\"?\n", .str "a\\b"]
    let framed : List (String × Json) :=
      [("partial_summary", .str "\u2028é"), ("questions", asked), ("round", .num (.int 0)),
        ("session_id", .str "s\u0001"), ("type", .str "clarification_needed")]
    let replied : List (String × Json) :=
      [("partial_summary", .str "\u2028é"), ("questions", asked), ("round", .num (.int 0)),
        ("session_id", .str "s\u0001"), ("status", .str "clarification_needed")]
    Frame.read "now" (Json.obj framed).render = .clarification { s with round := 1 } ∧
      Outcome.ofJson (.obj replied) = .ok (.clarification { s with round := 1 } none) := by
  intro s asked framed replied
  have read := Frame.read_render.2 "now" s framed replied
    (List.isPerm_iff.1 (by decide)) (List.isPerm_iff.1 (by decide))
  exact ⟨read.1, read.2.1⟩

end VoiceTicket
