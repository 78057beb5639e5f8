/-
  What the body of a reply means.

  1. **Data** — `Outcome.Means` are the shapes of a body, one constructor for each, with all that a
     value must have and must not have to be of that shape.

  2. **Specification** — `Backend.outcomeOf_eq_iff_means`: a body is an outcome exactly if it means
     one, and an invalid response otherwise; and a round of questions is the same in a body and in a
     frame.

  3. **Crux** — what tells the shapes apart is looked at before anything is typed, so that the
     equation for each shape (`ofJson_of_asking`, `ofJson_of_keyed`, `ofJson_of_keyless`) has what
     the shapes before it lack among its conditions.
-/
import VoiceTicket.Backend
import VoiceTicket.Proofs.Wire.Frames

namespace VoiceTicket

open Json.Decoder

namespace Outcome

/-- A number as a double. -/
def double : Number → Binary64
  | .int i => Binary64.ofInt i
  | .float x => x

/-- The score under `ambiguity_score`, and nothing where there is no number. -/
def ScoreAt (v : Json) (score : Option Binary64) : Prop :=
  (∃ n, v.field? "ambiguity_score" = some (.num n) ∧ score = some (double n)) ∨
    (∀ n, v.field? "ambiguity_score" ≠ some (.num n)) ∧ score = none

/-- What a body means. -/
inductive Means (v : Json) : Outcome → Prop where
  | clarification {s : Session} {score : Option Binary64} (object : v.isObject = true)
      (status : v.field? "status" = some (.str "clarification_needed")) (given : s.Given v)
      (scored : ScoreAt v score) : Means v (.clarification s score)
  | ticket {key url summary transcribed : String} (object : v.isObject = true)
      (status : v.field? "status" ≠ some (.str "clarification_needed"))
      (atKey : v.field? "ticket_key" = some (.str key)) (atUrl : v.TextOr "ticket_url" "" url)
      (atSummary : v.TextOr "summary" "" summary)
      (atTranscribed : v.TextOr "transcribed_text" "" transcribed) :
      Means v (.ticket key url summary transcribed)
  | transcription {text : String} {language : Option String} (object : v.isObject = true)
      (status : v.field? "status" ≠ some (.str "clarification_needed"))
      (keyless : v.field? "ticket_key" = none) (atText : v.field? "text" = some (.str text))
      (atLanguage : v.given? "language" = language.map .str) :
      Means v (.transcription text language)

variable {v : Json} {o : Outcome}

theorem asksForClarification_iff :
    asksForClarification v = true ↔ v.field? "status" = some (.str "clarification_needed") := by
  rw [asksForClarification, beq_iff_eq]

theorem scoreAt_iff {score : Option Binary64} :
    ScoreAt v score ↔ (v.field? "ambiguity_score").bind score? = score := by
  rw [ScoreAt]
  cases v.field? "ambiguity_score" with
  | none => simp [eq_comm]
  | some w =>
    cases w with
    | num n => cases n <;> simp [score?, double, eq_comm]
    | _ => simp [score?, eq_comm]

theorem read_eq_ok_iff {decode : Json.Decoder Outcome} :
    read decode v = .ok o ↔ decode v = .ok o := by
  rw [read]
  cases decode v <;> simp

theorem decodeTicket_eq_ok_iff :
    decodeTicket v = .ok o ↔ ∃ key url summary transcribed,
      o = .ticket key url summary transcribed ∧
      v.field? "ticket_key" = some (.str key) ∧ v.TextOr "ticket_url" "" url ∧
        v.TextOr "summary" "" summary ∧ v.TextOr "transcribed_text" "" transcribed := by
  constructor
  · intro h
    obtain ⟨summary, readSummary, h⟩ := except_bind_eq_ok.1 h
    obtain ⟨key, readKey, h⟩ := except_bind_eq_ok.1 h
    obtain ⟨url, readUrl, h⟩ := except_bind_eq_ok.1 h
    obtain ⟨transcribed, readTranscribed, h⟩ := except_bind_eq_ok.1 h
    obtain ⟨_, someKey, h⟩ := except_bind_eq_ok.1 h
    cases h
    exact ⟨_, _, _, _, rfl, holds_text_iff.1 (holds_iff.2 ⟨key, readKey, someKey⟩),
      textOr_iff.2 ⟨url, readUrl, rfl⟩, textOr_iff.2 ⟨summary, readSummary, rfl⟩,
      textOr_iff.2 ⟨transcribed, readTranscribed, rfl⟩⟩
  · rintro ⟨key, url, summary, transcribed, rfl, atKey, atUrl, atSummary, atTranscribed⟩
    obtain ⟨foundKey, readKey, someKey⟩ := holds_iff.1 (holds_text_iff.2 atKey)
    obtain ⟨foundUrl, readUrl, rfl⟩ := textOr_iff.1 atUrl
    obtain ⟨foundSummary, readSummary, rfl⟩ := textOr_iff.1 atSummary
    obtain ⟨foundTranscribed, readTranscribed, rfl⟩ := textOr_iff.1 atTranscribed
    simp only [decodeTicket, except_bind_eq_ok]
    exact ⟨_, readSummary, _, readKey, _, readUrl, _, readTranscribed, _, someKey, rfl⟩

theorem decodeTranscription_eq_ok_iff :
    decodeTranscription v = .ok o ↔ ∃ text language, o = .transcription text language ∧
      v.field? "text" = some (.str text) ∧ v.given? "language" = language.map .str := by
  constructor
  · intro h
    obtain ⟨language, readLanguage, h⟩ := except_bind_eq_ok.1 h
    obtain ⟨text, readText, h⟩ := except_bind_eq_ok.1 h
    obtain ⟨_, someText, h⟩ := except_bind_eq_ok.1 h
    cases h
    exact ⟨_, _, rfl, holds_text_iff.1 (holds_iff.2 ⟨text, readText, someText⟩),
      (exists_present_nullable_iff_given? inverts_text).1 ⟨language, readLanguage, rfl⟩⟩
  · rintro ⟨text, language, rfl, atText, atLanguage⟩
    obtain ⟨foundText, readText, someText⟩ := holds_iff.1 (holds_text_iff.2 atText)
    obtain ⟨foundLanguage, readLanguage, sameLanguage⟩ :=
      (exists_present_nullable_iff_given? inverts_text).2 atLanguage
    simp only [decodeTranscription, except_bind_eq_ok]
    refine ⟨_, readLanguage, _, readText, _, someText, ?_⟩
    rw [sameLanguage]
    rfl

/-! ## The shape, by what is there -/

theorem ofJson_of_noObject (other : ¬ v.isObject = true) : ofJson v = .error (.notObject v) := by
  rw [ofJson, Bool.eq_false_iff.2 other]
  rfl

theorem ofJson_of_asking (object : v.isObject = true)
    (status : v.field? "status" = some (.str "clarification_needed")) :
    ofJson v = match Session.decode v with
      | .ok session => .ok (.clarification session ((v.field? "ambiguity_score").bind score?))
      | .error _ => .error .badSession := by
  rw [ofJson, object, asksForClarification_iff.2 status]
  rfl

theorem ofJson_of_keyed (object : v.isObject = true)
    (status : v.field? "status" ≠ some (.str "clarification_needed"))
    (keyed : v.field? "ticket_key" ≠ none) : ofJson v = read decodeTicket v := by
  have silent : asksForClarification v = false :=
    Bool.eq_false_iff.2 fun asks => status (asksForClarification_iff.1 asks)
  rw [ofJson, object, silent, Option.isSome_iff_ne_none.2 keyed]
  rfl

theorem ofJson_of_keyless (object : v.isObject = true)
    (status : v.field? "status" ≠ some (.str "clarification_needed"))
    (keyless : v.field? "ticket_key" = none) :
    ofJson v =
      if (v.field? "text").isSome then read decodeTranscription v else .error .noShape := by
  have silent : asksForClarification v = false :=
    Bool.eq_false_iff.2 fun asks => status (asksForClarification_iff.1 asks)
  rw [ofJson, object, silent, keyless]
  rfl

/-- **A body is read as what it means.** -/
theorem ofJson_eq_ok_iff : ofJson v = .ok o ↔ Means v o := by
  constructor
  · intro read
    by_cases object : v.isObject = true
    case neg =>
      rw [ofJson_of_noObject object] at read
      cases read
    by_cases status : v.field? "status" = some (.str "clarification_needed")
    · rw [ofJson_of_asking object status] at read
      split at read
      · next s decoded =>
        cases read
        exact .clarification object status (Session.decode_eq_ok_iff.1 decoded) (scoreAt_iff.2 rfl)
      · cases read
    cases keyed : v.field? "ticket_key" with
    | some w =>
      rw [ofJson_of_keyed object status (by rw [keyed]; nofun), read_eq_ok_iff] at read
      obtain ⟨key, url, summary, transcribed, rfl, atKey, atUrl, atSummary, atTranscribed⟩ :=
        decodeTicket_eq_ok_iff.1 read
      exact .ticket object status atKey atUrl atSummary atTranscribed
    | none =>
      rw [ofJson_of_keyless object status keyed] at read
      split at read
      · rw [read_eq_ok_iff] at read
        obtain ⟨text, language, rfl, atText, atLanguage⟩ := decodeTranscription_eq_ok_iff.1 read
        exact .transcription object status keyed atText atLanguage
      · cases read
  · intro means
    cases means with
    | clarification object status given scored =>
      rw [ofJson_of_asking object status, Session.decode_eq_ok_iff.2 given, ← scoreAt_iff.1 scored]
    | ticket object status atKey atUrl atSummary atTranscribed =>
      rw [ofJson_of_keyed object status (by rw [atKey]; nofun), read_eq_ok_iff]
      exact decodeTicket_eq_ok_iff.2
        ⟨_, _, _, _, rfl, atKey, atUrl, atSummary, atTranscribed⟩
    | transcription object status keyless atText atLanguage =>
      rw [ofJson_of_keyless object status keyless, atText, Option.isSome_some, if_pos rfl,
        read_eq_ok_iff]
      exact decodeTranscription_eq_ok_iff.2 ⟨_, _, rfl, atText, atLanguage⟩

end Outcome

namespace Backend

variable {endpoint : Endpoint} {v : Json} {o : Outcome}

theorem outcomeOf_eq_ok_iff : outcomeOf endpoint v = .ok o ↔ Outcome.Means v o := by
  rw [outcomeOf, mapError_eq_ok, Outcome.ofJson_eq_ok_iff]

/-- A body that is no outcome is an invalid response. -/
theorem outcomeOf_of_error {fault : Outcome.Fault} (failed : Outcome.ofJson v = .error fault) :
    outcomeOf endpoint v = .error (.invalid endpoint (.outcome fault)) := by
  rw [outcomeOf, failed]
  rfl

/-- What means nothing is an invalid response. -/
theorem outcomeOf_eq_invalid_iff :
    (∃ fault, outcomeOf endpoint v = .error (.invalid endpoint (.outcome fault))) ↔
      ∀ o, ¬ Outcome.Means v o := by
  cases read : Outcome.ofJson v with
  | ok o =>
    have means : Outcome.Means v o := Outcome.ofJson_eq_ok_iff.1 read
    constructor
    · rintro ⟨fault, failed⟩
      rw [outcomeOf_eq_ok_iff.2 means] at failed
      cases failed
    · intro lacking
      exact absurd means (lacking o)
  | error fault =>
    constructor
    · intro _ o means
      rw [Outcome.ofJson_eq_ok_iff.2 means] at read
      cases read
    · intro _
      exact ⟨fault, outcomeOf_of_error read⟩

theorem clarification_of_asking (status : v.field? "status" = some (.str "clarification_needed"))
    (read : outcomeOf endpoint v = .ok o) : ∃ s score, o = .clarification s score := by
  cases outcomeOf_eq_ok_iff.1 read with
  | clarification => exact ⟨_, _, rfl⟩
  | ticket _ other => exact absurd status other
  | transcription _ other => exact absurd status other

theorem not_transcription_of_keyed (keyed : v.field? "ticket_key" ≠ none)
    (read : outcomeOf endpoint v = .ok o) (text : String) (language : Option String) :
    o ≠ .transcription text language := by
  rintro rfl
  cases outcomeOf_eq_ok_iff.1 read with
  | transcription _ _ keyless => exact keyed keyless

/-- The channel and a call read the same round of questions in the same fields. -/
theorem read_iff_outcomeOf {now text : String} {w : Json} (object : v.isObject = true)
    (status : v.field? "status" = some (.str "clarification_needed"))
    (spelled : Frame.SpellsObject text w)
    (type : w.field? "type" = some (.str "clarification_needed"))
    (same : ∀ key ∈ Session.keys, w.field? key = v.field? key) (s : Session) :
    Frame.read now text = .clarification s ↔
      ∃ score, outcomeOf endpoint v = .ok (.clarification s score) := by
  rw [Frame.read_eq_clarification_iff spelled type]
  constructor
  · intro given
    have given' := given.of_fields fun key mem => (same key mem).symm
    have scored : Outcome.ScoreAt v _ := Outcome.scoreAt_iff.2 rfl
    exact ⟨_, outcomeOf_eq_ok_iff.2 (.clarification object status given' scored)⟩
  · rintro ⟨score, read⟩
    cases outcomeOf_eq_ok_iff.1 read with
    | clarification _ _ given => exact given.of_fields same

/-- **What the body of a reply means.**  It is the outcome that it means, or an invalid response of
the endpoint if it means none.  A body that calls itself a round of questions is nothing else, and
one with a ticket's key is no transcription, whatever that key is.  And the round of questions in it
is the one that the channel reads in an object with the same fields. -/
theorem outcomeOf_eq_iff_means (endpoint : Endpoint) (v : Json) :
    (∀ o, outcomeOf endpoint v = .ok o ↔ Outcome.Means v o) ∧
    ((∃ fault, outcomeOf endpoint v = .error (.invalid endpoint (.outcome fault))) ↔
      ∀ o, ¬ Outcome.Means v o) ∧
    (v.field? "status" = some (.str "clarification_needed") →
      ∀ o, outcomeOf endpoint v = .ok o → ∃ s score, o = .clarification s score) ∧
    (v.field? "ticket_key" ≠ none →
      ∀ o, outcomeOf endpoint v = .ok o → ∀ text language, o ≠ .transcription text language) ∧
    ∀ (now text : String) (w : Json), v.isObject = true →
      v.field? "status" = some (.str "clarification_needed") → Frame.SpellsObject text w →
      w.field? "type" = some (.str "clarification_needed") →
      (∀ key ∈ Session.keys, w.field? key = v.field? key) →
        ∀ s, Frame.read now text = .clarification s ↔
          ∃ score, outcomeOf endpoint v = .ok (.clarification s score) := by
  refine ⟨fun o => outcomeOf_eq_ok_iff, outcomeOf_eq_invalid_iff, fun status o read => ?_,
    fun keyed o read => ?_, fun now text w object status spelled type same s => ?_⟩
  · exact clarification_of_asking status read
  · exact not_transcription_of_keyed keyed read
  · exact read_iff_outcomeOf object status spelled type same s

/-- A body that asks for clarification although it has a ticket's key, and one whose ticket's key is
`null`: the first is the round of questions that the channel reads, the second is nothing. -/
theorem outcomeOf_eq_iff_means_mixed :
    let body : Json := .obj [("ambiguity_score", .ofNat 3), ("session_id", .str "s1"),
      ("status", .str "clarification_needed"), ("ticket_key", .str "VP-7")]
    let broken : Json := .obj [("text", .str "hello"), ("ticket_key", .null)]
    let text := "\x7b\"type\":\"clarification_needed\",\"session_id\":\"s1\"\x7d"
    let s : Session := ⟨"s1", [], "", 1⟩
    outcomeOf .text body = .ok (.clarification s (some (Binary64.ofInt 3))) ∧
      Frame.read "now" text = .clarification s ∧ ∀ o, ¬ Outcome.Means broken o := by
  intro body broken text s
  have read : outcomeOf .text body = .ok (.clarification s (some (Binary64.ofInt 3))) :=
    toOption_eq_some.1 (by decide +kernel)
  have spelled : Frame.SpellsObject text (.obj [("session_id", .str "s1"),
      ("type", .str "clarification_needed")]) := ⟨by decide +kernel, rfl⟩
  have alike := (outcomeOf_eq_iff_means .text body).2.2.2.2 "now" text _ rfl rfl spelled rfl
    (by decide) s
  have failed : outcomeOf .audio broken =
      .error (.invalid .audio (.outcome (.mismatch (.type .null .text)))) := rfl
  exact ⟨read, alike.2 ⟨_, read⟩, (outcomeOf_eq_iff_means .audio broken).2.1.1 ⟨_, failed⟩⟩

end Backend

end VoiceTicket
