/-
  What a reply means for a call.

  1. **Data** — `Backend.ReplyMeans endpoint url reply result`: what becomes of a request has this
     result, if the request went to an endpoint at a URL.  There is one constructor for each kind of
     result, with all that a reply must be to have it.

  2. **Specification** — `Backend.replyMeans_outcomeOfReply`: a call has the result that its reply
     means.  Each reply means one result (`Backend.existsUnique_replyMeans`), so that nothing but the
     reply decides it.

  3. **Crux** — only a reply of a success is read, and its body by what it means as an outcome
     (`Outcome.Means`); of every other reply only the status counts, and the body is a text.
-/
import Mathlib.Logic.ExistsUnique
import VoiceTicket.Proofs.Wire.Bodies

namespace VoiceTicket

/-! ## Answers -/

namespace Http

/-- The body of a final answer; there is none behind some statuses, and none that is whole if it is
cut short. -/
def bodyOf? (status : Nat) (body : String) (cutShort : Bool) : Option String :=
  if status = 101 ∨ status = 204 ∨ status = 304 then some ""
  else if cutShort then none
  else some body

variable {status : Nat}

theorem isSuccess_iff {r : Response} : r.isSuccess = true ↔ 200 ≤ r.status ∧ r.status < 300 := by
  simp [Response.isSuccess]

theorem hasBody_of_final (final : 200 ≤ status ∨ status = 101) :
    hasBody status = false ↔ status = 101 ∨ status = 204 ∨ status = 304 := by
  simp only [hasBody, Bool.not_eq_false', Bool.or_eq_true, decide_eq_true_eq, beq_iff_eq]
  omega

namespace Wire

variable (url : Url) (body : String) (cutShort : Bool)

/-- A final answer is received. -/
theorem receive_of_final (final : 200 ≤ status ∨ status = 101) :
    receive url (.answer status body cutShort) =
      .ok ⟨status, bodyOf? status body cutShort⟩ := by
  have last : isInterim status = false := by
    simp only [isInterim, Bool.and_eq_false_iff, decide_eq_false_iff_not, bne_eq_false_iff_eq]
    omega
  rw [receive, last, if_neg Bool.false_ne_true, bodyOf?]
  by_cases bare : status = 101 ∨ status = 204 ∨ status = 304
  · rw [(hasBody_of_final final).2 bare, if_pos bare]
    rfl
  · have bodied : hasBody status = true := by
      rw [← Bool.not_eq_false, hasBody_of_final final]
      exact bare
    rw [bodied, if_neg bare]
    cases cutShort <;> rfl

/-- One that only announces an answer is none. -/
theorem receive_of_interim (low : status < 200) (other : status ≠ 101) :
    receive url (.answer status body cutShort) = .error (.unanswered url) := by
  have announces : isInterim status = true := by
    simp only [isInterim, Bool.and_eq_true, decide_eq_true_eq, bne_iff_ne]
    exact ⟨low, other⟩
  rw [receive, announces, if_pos rfl]

end Wire

end Http

/-! ## Results -/

namespace Backend

/-- What the reply to a request means for a call to an endpoint. -/
inductive ReplyMeans (endpoint : Endpoint) (url : Url) :
    Http.Reply → Except Fault Outcome → Prop where
  /-- The body of a success means an outcome. -/
  | outcome {status : Nat} {body : String} {v : Json} {o : Outcome} (low : 200 ≤ status)
      (high : status < 300) (bodied : status ≠ 204) (spelled : Json.parse? body = some v)
      (means : Outcome.Means v o) : ReplyMeans endpoint url (.answer status body false) (.ok o)
  /-- It means none. -/
  | meaningless {status : Nat} {body : String} {v : Json} {fault : Outcome.Fault}
      (low : 200 ≤ status) (high : status < 300) (bodied : status ≠ 204)
      (spelled : Json.parse? body = some v) (nothing : ∀ o, ¬ Outcome.Means v o)
      (because : Outcome.ofJson v = .error fault) :
      ReplyMeans endpoint url (.answer status body false)
        (.error (.invalid endpoint (.outcome fault)))
  /-- A success has no body that is whole and a value. -/
  | garbled {status : Nat} {body : String} {cutShort : Bool} (low : 200 ≤ status)
      (high : status < 300)
      (unread : status = 204 ∨ cutShort = true ∨ Json.parse? body = none) :
      ReplyMeans endpoint url (.answer status body cutShort) (.error (.invalid endpoint .undecodable))
  /-- Any other answer is a failure of the server, whatever is in its body. -/
  | failed {status : Nat} {body : String} {cutShort : Bool} (final : 300 ≤ status ∨ status = 101) :
      ReplyMeans endpoint url (.answer status body cutShort)
        (.error (.server status endpoint (faultBody (Http.bodyOf? status body cutShort))))
  /-- An answer is announced, and the connection ends. -/
  | announced {status : Nat} {body : String} {cutShort : Bool} (low : status < 200)
      (other : status ≠ 101) :
      ReplyMeans endpoint url (.answer status body cutShort) (.error (.network (.unanswered url)))
  | dropped : ReplyMeans endpoint url .dropped (.error (.network (.unanswered url)))
  | silent : ReplyMeans endpoint url .silent (.error (.network (.timedOut url)))

/-- The result of a call that gets a reply. -/
def outcomeOfReply (endpoint : Endpoint) (url : Url) (reply : Http.Reply) : Except Fault Outcome :=
  ((Http.Wire.receive url reply).mapError .network).bind (readOutcome endpoint)

variable {endpoint : Endpoint} {url : Url} {status : Nat} {body : String} {cutShort : Bool}

theorem readOutcome_of_failure {r : Http.Response} (failure : r.isSuccess = false) :
    readOutcome endpoint r = .error (.server r.status endpoint (faultBody r.body)) := by
  rw [readOutcome, readJson, failure]
  rfl

theorem readOutcome_of_success {r : Http.Response} (success : r.isSuccess = true) :
    readOutcome endpoint r = match r.body.bind Json.parse? with
      | some v => outcomeOf endpoint v
      | none => .error (.invalid endpoint .undecodable) := by
  rw [readOutcome, readJson, success]
  cases r.body.bind Json.parse? <;> rfl

/-- An answer of a failure is not looked into. -/
theorem outcomeOfReply_of_failure (final : 300 ≤ status ∨ status = 101) :
    outcomeOfReply endpoint url (.answer status body cutShort) =
      .error (.server status endpoint (faultBody (Http.bodyOf? status body cutShort))) := by
  have failure (body : Option String) :
      (Http.Response.mk status body).isSuccess = false := by
    rw [← Bool.not_eq_true, Http.isSuccess_iff]
    show ¬ (200 ≤ status ∧ status < 300)
    omega
  rw [outcomeOfReply, Http.Wire.receive_of_final url body cutShort (by omega)]
  exact readOutcome_of_failure (failure _)

/-- One of a success is. -/
theorem outcomeOfReply_of_success (low : 200 ≤ status) (high : status < 300) :
    outcomeOfReply endpoint url (.answer status body cutShort) =
      match (Http.bodyOf? status body cutShort).bind Json.parse? with
      | some v => outcomeOf endpoint v
      | none => .error (.invalid endpoint .undecodable) := by
  rw [outcomeOfReply, Http.Wire.receive_of_final url body cutShort (Or.inl low)]
  exact readOutcome_of_success (Http.isSuccess_iff.2 ⟨low, high⟩)

/-- The value in the body of a success is there if the body is, and is whole. -/
theorem bind_bodyOf?_eq_some_iff (low : 200 ≤ status) (high : status < 300) {v : Json} :
    (Http.bodyOf? status body cutShort).bind Json.parse? = some v ↔
      status ≠ 204 ∧ cutShort = false ∧ Json.parse? body = some v := by
  have empty : Json.parse? "" = none := by decide +kernel
  rw [Http.bodyOf?]
  by_cases bare : status = 204
  · rw [if_pos (Or.inr (Or.inl bare)), Option.bind_some, empty]
    simp [bare]
  · rw [if_neg (by omega)]
    cases cutShort <;> simp [bare]

/-- **A call has the result that its reply means.** -/
theorem replyMeans_outcomeOfReply (endpoint : Endpoint) (url : Url) (reply : Http.Reply) :
    ReplyMeans endpoint url reply (outcomeOfReply endpoint url reply) := by
  cases reply with
  | dropped => exact .dropped
  | silent => exact .silent
  | answer status body cutShort =>
    by_cases final : 200 ≤ status ∨ status = 101
    case neg =>
      rw [outcomeOfReply, Http.Wire.receive_of_interim url body cutShort (by omega) (by omega)]
      exact .announced (by omega) (by omega)
    by_cases success : 200 ≤ status ∧ status < 300
    case neg =>
      have failure : 300 ≤ status ∨ status = 101 := by omega
      rw [outcomeOfReply_of_failure failure]
      exact .failed failure
    obtain ⟨low, high⟩ := success
    rw [outcomeOfReply_of_success low high]
    cases found : (Http.bodyOf? status body cutShort).bind Json.parse? with
    | none =>
      refine .garbled low high ?_
      by_contra whole
      obtain ⟨v, spelled⟩ : ∃ v, Json.parse? body = some v := by
        refine Option.ne_none_iff_exists'.1 fun unread => whole (Or.inr (Or.inr unread))
      have bodied : status ≠ 204 ∧ cutShort = false := by
        refine ⟨fun bare => whole (Or.inl bare), Bool.eq_false_iff.2 fun cut => ?_⟩
        exact whole (Or.inr (Or.inl cut))
      rw [(bind_bodyOf?_eq_some_iff low high).2 ⟨bodied.1, bodied.2, spelled⟩] at found
      cases found
    | some v =>
      obtain ⟨bodied, rfl, spelled⟩ := (bind_bodyOf?_eq_some_iff low high).1 found
      dsimp only
      cases read : Outcome.ofJson v with
      | ok o =>
        have means := Outcome.ofJson_eq_ok_iff.1 read
        rw [outcomeOf_eq_ok_iff.2 means]
        exact .outcome low high bodied spelled means
      | error fault =>
        rw [outcomeOf_of_error read]
        refine .meaningless low high bodied spelled (fun o means => ?_) read
        rw [Outcome.ofJson_eq_ok_iff.2 means] at read
        cases read

/-- It has no other. -/
theorem ReplyMeans.eq {reply : Http.Reply} {result : Except Fault Outcome}
    (means : ReplyMeans endpoint url reply result) :
    outcomeOfReply endpoint url reply = result := by
  cases means with
  | outcome low high bodied spelled means =>
    rw [outcomeOfReply_of_success low high,
      (bind_bodyOf?_eq_some_iff low high).2 ⟨bodied, rfl, spelled⟩]
    exact outcomeOf_eq_ok_iff.2 means
  | meaningless low high bodied spelled nothing because =>
    rw [outcomeOfReply_of_success low high,
      (bind_bodyOf?_eq_some_iff low high).2 ⟨bodied, rfl, spelled⟩]
    exact outcomeOf_of_error because
  | @garbled status body cutShort low high unread =>
    have nothing : (Http.bodyOf? status body cutShort).bind Json.parse? = none := by
      rw [Option.eq_none_iff_forall_ne_some]
      intro v found
      obtain ⟨bodied, whole, spelled⟩ := (bind_bodyOf?_eq_some_iff low high).1 found
      simp [bodied, whole, spelled] at unread
    rw [outcomeOfReply_of_success low high, nothing]
  | failed final => exact outcomeOfReply_of_failure final
  | announced low other => rw [outcomeOfReply, Http.Wire.receive_of_interim url _ _ low other]; rfl
  | dropped | silent => rfl

/-- **A reply means one result.** -/
theorem existsUnique_replyMeans (endpoint : Endpoint) (url : Url) (reply : Http.Reply) :
    ∃! result, ReplyMeans endpoint url reply result := by
  refine ⟨_, replyMeans_outcomeOfReply endpoint url reply, ?_⟩
  intro result means
  exact means.eq.symm

end Backend

end VoiceTicket
