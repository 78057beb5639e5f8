/-
  What a command sends.

  1. **Data** — `Submission.Rejected`: the text of a command is blank, or the store rejects the
     operation.  `Http.Wire.Reaches w server address`: the library makes a request of all that it is
     handed for a server, to the URL that `address` has for each path.

  2. **Specification** — `submit_requests`: a command that is rejected sends nothing and leaves
     everything alone.  Any other posts to the path of its endpoint, and a recording to another path
     as well if the first reply says that the endpoint is missing; and what it folds in is what the
     last reply means (`Backend.ReplyMeans`).  Asking for the health sends one request and leaves
     everything but the wire alone.

  3. **Crux** — a call takes one reply off the wire and leaves one request there
     (`Http.Wire.Reaches.send`), so that what two calls do to the wire is what they do one after the
     other (`Http.Wire.served_served`).
-/
import VoiceTicket.Proofs.Desk.JobEnd
import VoiceTicket.Proofs.Url.Addresses
import VoiceTicket.Proofs.Wire.Replies

namespace VoiceTicket

/-! ## The wire -/

namespace Http

/-- The reply says that the server does not have the endpoint. -/
def Reply.isMissing : Reply → Bool
  | .answer status _ _ => status == 404 || status == 405
  | _ => false

namespace Wire

/-- The n-th of the replies that are still to come; the connection ends where there is none. -/
def reply (w : Wire) (n : Nat) : Reply := w.replies.getD n .dropped

/-- The wire when some requests have been answered. -/
def served (w : Wire) (requests : List Request) : Wire :=
  { w with
    replies := w.replies.drop requests.length
    arrived := w.arrived ++ requests }

/-- The library makes a request of everything that it is handed for a server, to the URL that there
is for the path. -/
structure Reaches (w : Wire) (server : String) (address : String → Url) : Prop where
  target : ∀ path ∈ Backend.paths,
    Http.target (Backend.address server path) = .ok (address path)
  scheme : ∀ path ∈ Backend.paths, (address path).scheme ∈ w.schemes

variable {w : Wire} {server : String} {address : String → Url}

theorem served_served (w : Wire) (first more : List Request) :
    (w.served first).served more = w.served (first ++ more) := by
  simp only [served, List.drop_drop, List.length_append, List.append_assoc]

theorem reply_served (w : Wire) (requests : List Request) (n : Nat) :
    (w.served requests).reply n = w.reply (requests.length + n) := by
  simp only [reply, served, List.getD_eq_getElem?_getD, List.getElem?_drop]

/-- Every path has its URL where the library makes a request of everything. -/
theorem exists_reaches (makes : ∀ path ∈ Backend.paths, ∃ u,
    Http.target (Backend.address server path) = .ok u ∧ u.scheme ∈ w.schemes) :
    ∃ address, w.Reaches server address := by
  have all (path : String) : ∃ u, path ∈ Backend.paths →
      Http.target (Backend.address server path) = .ok u ∧ u.scheme ∈ w.schemes := by
    by_cases mem : path ∈ Backend.paths
    · obtain ⟨u, both⟩ := makes path mem
      exact ⟨u, fun _ => both⟩
    · obtain ⟨u, -⟩ := makes "/health" (by decide)
      exact ⟨u, fun mem' => absurd mem' mem⟩
  obtain ⟨address, reached⟩ := Classical.axiomOfChoice all
  exact ⟨address, fun path mem => (reached path mem).1, fun path mem => (reached path mem).2⟩

theorem Reaches.served (reaches : w.Reaches server address) (requests : List Request) :
    (w.served requests).Reaches server address :=
  ⟨reaches.target, reaches.scheme⟩

/-- What is sent takes one reply off the wire and leaves one request there. -/
theorem Reaches.send (reaches : w.Reaches server address) (method : Method) (endpoint : Endpoint)
    (content : Content) :
    w.send method (Backend.url server endpoint) content =
      (receive (address endpoint.path) (w.reply 0),
        w.served [⟨method, (address endpoint.path).withoutFragment, content⟩]) := by
  have first : w.replies.headD .dropped = w.reply 0 := by
    rw [reply]
    cases w.replies <;> rfl
  have rest : w.replies.tail = w.replies.drop 1 := List.drop_one.symm
  have mem := Backend.path_mem_paths endpoint
  simp only [Wire.send, Backend.url_eq, reaches.target _ mem, reaches.scheme _ mem, if_true, first,
    rest]
  rfl

end Wire

/-- What is received says that the endpoint is missing exactly if the reply says so. -/
theorem lacksEndpoint_receive (u : Url) (reply : Reply) :
    (Wire.receive u reply).toOption.any Backend.lacksEndpoint = reply.isMissing := by
  cases reply with
  | answer status body cutShort =>
    show _ = (status == 404 || status == 405)
    by_cases missing : status = 404 ∨ status = 405
    · rcases missing with rfl | rfl <;> rfl
    · have other : (status == 404 || status == 405) = false := by simpa using missing
      rw [other]
      simp only [Wire.receive]
      split
      · rfl
      · split
        · exact other
        · exact other
  | dropped => rfl
  | silent => rfl

end Http

/-! ## Calls -/

namespace Backend

variable {w : Http.Wire} {server : String} {address : String → Url}

/-- A request to post something to a path. -/
def post (address : String → Url) (content : Http.Content) (path : String) : Http.Request :=
  ⟨.post, (address path).withoutFragment, content⟩

/-- The report in the reply of a server. -/
def healthOfReply (url : Url) (reply : Http.Reply) : Except Fault Health :=
  ((Http.Wire.receive url reply).mapError .network).bind readHealth

theorem call_of_reaches (reaches : w.Reaches server address) (endpoint : Endpoint)
    (content : Http.Content) :
    call server endpoint content w =
      (outcomeOfReply endpoint (address endpoint.path) (w.reply 0),
        w.served [post address content endpoint.path]) := by
  rw [call, request, reaches.send]
  rfl

theorem health_of_reaches (reaches : w.Reaches server address) :
    health server w =
      (healthOfReply (address "/health") (w.reply 0),
        w.served [⟨.get, (address "/health").withoutFragment, .nothing⟩]) := by
  rw [health, request, reaches.send]
  rfl

/-- A recording is sent once, and once more exactly if the first reply says that the endpoint is
missing; then the second reply alone decides. -/
theorem sendAudio_of_reaches (reaches : w.Reaches server address) (wav : List UInt8) :
    sendAudio server wav w =
      if (w.reply 0).isMissing then
        (outcomeOfReply .transcribe (address "/api/transcribe") (w.reply 1),
          w.served (["/api/pipeline/run/audio", "/api/transcribe"].map
            (post address (.recording wav))))
      else
        (outcomeOfReply .audio (address "/api/pipeline/run/audio") (w.reply 0),
          w.served [post address (.recording wav) "/api/pipeline/run/audio"]) := by
  have missing := Http.lacksEndpoint_receive (address "/api/pipeline/run/audio") (w.reply 0)
  -- What the second request finds, should it be sent.
  have second := call_of_reaches
    (reaches.served [post address (.recording wav) "/api/pipeline/run/audio"])
    .transcribe (.recording wav)
  rw [Http.Wire.reply_served, Http.Wire.served_served] at second
  rw [sendAudio, request, reaches.send]
  show readOrTranscribe server wav
    ((Http.Wire.receive (address "/api/pipeline/run/audio") (w.reply 0)).mapError .network,
      w.served [post address (.recording wav) "/api/pipeline/run/audio"]) = _
  cases received : Http.Wire.receive (address "/api/pipeline/run/audio") (w.reply 0) with
  | error fault =>
    rw [received] at missing
    have found : (w.reply 0).isMissing = false := missing.symm
    have read : outcomeOfReply .audio (address "/api/pipeline/run/audio") (w.reply 0) =
        .error (.network fault) := by
      rw [outcomeOfReply, received]
      rfl
    rw [found, read, if_neg Bool.false_ne_true]
    rfl
  | ok r =>
    rw [received] at missing
    have found : lacksEndpoint r = (w.reply 0).isMissing := missing
    have read : outcomeOfReply .audio (address "/api/pipeline/run/audio") (w.reply 0) =
        readOutcome .audio r := by
      rw [outcomeOfReply, received]
      rfl
    show readOrTranscribe server wav
      (.ok r, w.served [post address (.recording wav) "/api/pipeline/run/audio"]) = _
    rw [readOrTranscribe, found, read]
    cases (w.reply 0).isMissing with
    | true =>
      rw [if_pos rfl, if_pos rfl]
      exact second
    | false => rw [if_neg Bool.false_ne_true, if_neg Bool.false_ne_true]

end Backend

/-! ## Commands -/

/-- A command is rejected: its text is blank, or the store rejects the operation. -/
def Submission.Rejected (s : Store) : Submission → Prop
  | .text job given =>
    Text.isBlankText given = true ∨ ∃ r, s.startTextJob job (Text.trim given) = .error r
  | .answer given => Text.isBlankText given = true ∨ ∃ r, s.takeSession = .error r
  | .recording _ => ∃ r, s.stopRecording = .error r

theorem Backend.requireText_eq (given : String) :
    requireText given =
      if Text.isBlankText given then .error .emptyText else .ok (Text.trim given) := rfl

/-- What has passed the first look at it passes the second. -/
theorem Backend.requireText_trim {given : String} (solid : Text.isBlankText given = false) :
    requireText (Text.trim given) = .ok (Text.trim given) := by
  have still : Text.isBlankText (Text.trim given) = false := by
    rw [Text.isBlankText, Text.trim_trim]
    exact solid
  rw [requireText_eq, still, Text.trim_trim]
  rfl

namespace Desk

variable {d : Desk} {sub : Submission}

/-- A command is rejected exactly if there is no store for its call to be under way in. -/
theorem inFlight?_eq_none_iff (s : Store) (sub : Submission) :
    sub.inFlight? s = none ↔ sub.Rejected s := by
  cases sub with
  | text job given =>
    rw [Submission.inFlight?, Submission.Rejected, Backend.requireText_eq]
    cases Text.isBlankText given with
    | true => simp
    | false =>
      cases started : s.startTextJob job (Text.trim given) <;> simp [started, Except.toOption]
  | answer given =>
    rw [Submission.inFlight?, Submission.Rejected, Backend.requireText_eq]
    cases Text.isBlankText given with
    | true => simp
    | false => cases s.takeSession <;> simp [Except.toOption]
  | recording wav =>
    rw [Submission.inFlight?, Submission.Rejected]
    cases s.stopRecording <;> simp [Except.toOption]

/-- Any other has a store for it. -/
theorem exists_inFlight {s : Store} (accepted : ¬ sub.Rejected s) :
    ∃ s', sub.inFlight? s = some s' := by
  refine Option.ne_none_iff_exists'.1 fun none' => accepted ?_
  exact (inFlight?_eq_none_iff s sub).1 none'

/-- The session that is taken for an answer is the one that was live. -/
theorem current_of_takeSession {s s' : Store} {session : Session}
    (taken : s.takeSession = .ok (session, s')) :
    s.snapshot.clarification.current = some session := by
  rw [Store.takeSession] at taken
  split at taken
  · cases taken
  · next live current =>
    cases taken
    exact current

variable {given : String} {s : Store} {reply : Except Backend.Fault Outcome} {w : Http.Wire}

/-- A text that begins a job is posted, and the reply is folded in. -/
theorem submitText_of_call {job : String} (solid : Text.isBlankText given = false)
    (started : d.store.startTextJob job (Text.trim given) = .ok s)
    (called : Backend.call d.config.serverUrl .text
      (.json (.obj [("text", .str (Text.trim given))])) d.wire = (reply, w)) :
    d.submitText job given =
      ({ d with store := s, wire := w } : Desk).settle "Pipeline run" reply := by
  simp only [submitText, Backend.requireText_eq given, solid, started, Backend.runText,
    Backend.requireText_trim solid, baseUrl, called, if_neg Bool.false_ne_true]

/-- A text that answers a session is posted with its id, and the reply is folded in. -/
theorem answer_of_call {session : Session} (solid : Text.isBlankText given = false)
    (taken : d.store.takeSession = .ok (session, s))
    (called : Backend.call d.config.serverUrl .clarify
      (.json (.obj [("session_id", .str session.id), ("text", .str (Text.trim given))])) d.wire =
        (reply, w)) :
    d.answer given = ({ d with store := s, wire := w } : Desk).settle "Clarification" reply := by
  simp only [answer, Backend.requireText_eq given, solid, taken, Backend.clarify,
    Backend.requireText_trim solid, baseUrl, called, if_neg Bool.false_ne_true]

/-! ## What is sent -/

/-- The store with the result of a call: what it brings is folded in, or why it failed. -/
def folded (s : Store) (action : String) : Except Backend.Fault Outcome → Store
  | .ok outcome => s.fold outcome
  | .error fault => s.fail (action ++ " failed: " ++ fault.message)

/-- A command has sent some requests, one after the other, has returned a result, and has folded it
into the store that its call was under way in. -/
structure Sends (d : Desk) (sub : Submission) (requests : List Http.Request)
    (result : Except Backend.Fault Outcome) : Prop where
  returned : (d.submit sub).1 = result.mapError .ofBackend
  left : ∃ s, sub.inFlight? d.store = some s ∧ (d.submit sub).2 =
    { d with
      store := folded s sub.action result
      wire := d.wire.served requests }

/-- What is sent where the library makes a request of everything that it is handed. -/
structure RequestsAt (d : Desk) (address : String → Url) : Prop where
  /-- A text is posted, and the reply decides. -/
  text : ∀ job given, ¬ (Submission.text job given).Rejected d.store →
    ∃ result, Backend.ReplyMeans .text (address "/api/pipeline/run") (d.wire.reply 0) result ∧
      d.Sends (.text job given)
        [Backend.post address (.json (.obj [("text", .str (Text.trim given))]))
          "/api/pipeline/run"] result
  /-- An answer is posted with the id of the session that was live. -/
  answer : ∀ given, ¬ (Submission.answer given).Rejected d.store →
    ∃ session, d.store.snapshot.clarification.current = some session ∧
      ∃ result,
        Backend.ReplyMeans .clarify (address "/api/pipeline/clarify") (d.wire.reply 0) result ∧
        d.Sends (.answer given)
          [Backend.post address
            (.json (.obj [("session_id", .str session.id), ("text", .str (Text.trim given))]))
            "/api/pipeline/clarify"] result
  /-- A recording is posted once to a server that has the endpoint for it. -/
  recording : ∀ wav, ¬ (Submission.recording wav).Rejected d.store →
    (d.wire.reply 0).isMissing = false →
      ∃ result,
        Backend.ReplyMeans .audio (address "/api/pipeline/run/audio") (d.wire.reply 0) result ∧
        d.Sends (.recording wav)
          [Backend.post address (.recording wav) "/api/pipeline/run/audio"] result
  /-- It is posted twice to one that has not, and the second reply decides. -/
  transcribed : ∀ wav, ¬ (Submission.recording wav).Rejected d.store →
    (d.wire.reply 0).isMissing = true →
      ∃ result,
        Backend.ReplyMeans .transcribe (address "/api/transcribe") (d.wire.reply 1) result ∧
        d.Sends (.recording wav)
          [Backend.post address (.recording wav) "/api/pipeline/run/audio",
            Backend.post address (.recording wav) "/api/transcribe"] result
  /-- The health is asked for once. -/
  health : d.checkHealth =
    ((Backend.healthOfReply (address "/health") (d.wire.reply 0)).mapError .ofBackend,
      { d with
        wire := d.wire.served [⟨.get, (address "/health").withoutFragment, .nothing⟩] })
  /-- All this goes to the server that the server URL names, and there to the paths below the path of
  that, unless a query or a fragment begins in the server URL. -/
  below : ∀ channel, Channel.url d.config.serverUrl = .ok channel →
    (∀ c ∈ d.config.serverUrl.toList, c ≠ '?' ∧ c ≠ '#') →
      ∃ front, ∀ path ∈ Backend.paths, Url.Below channel front path (address path)

/-- What the commands send, and what they leave alone. -/
structure Requests (d : Desk) : Prop where
  /-- A command that is rejected sends nothing and leaves everything alone. -/
  rejected : ∀ sub : Submission, sub.Rejected d.store →
    ∃ fault, d.submit sub = (.error fault, d)
  /-- Asking for the health leaves everything but the wire alone. -/
  health : d.checkHealth.2 = { d with wire := d.checkHealth.2.wire }
  /-- Everything is sent to the server URL in effect. -/
  sent : ∀ address, d.wire.Reaches d.config.serverUrl address → d.RequestsAt address
  /-- A reply means one result, so that nothing else decides. -/
  decided : ∀ endpoint url reply, ∃! result, Backend.ReplyMeans endpoint url reply result

variable {address : String → Url}

theorem sends_of_settle {requests : List Http.Request}
    {result : Except Backend.Fault Outcome} (passed : sub.inFlight? d.store = some s)
    (settled : d.submit sub =
      ({ d with store := s, wire := d.wire.served requests } : Desk).settle sub.action result) :
    d.Sends sub requests result := by
  cases result with
  | ok outcome => exact ⟨by rw [settled]; rfl, s, passed, by rw [settled]; rfl⟩
  | error fault => exact ⟨by rw [settled]; rfl, s, passed, by rw [settled]; rfl⟩

theorem sends_text (reaches : d.wire.Reaches d.config.serverUrl address) {job : String}
    (accepted : ¬ (Submission.text job given).Rejected d.store) :
    d.Sends (.text job given)
      [Backend.post address (.json (.obj [("text", .str (Text.trim given))])) "/api/pipeline/run"]
      (Backend.outcomeOfReply .text (address "/api/pipeline/run") (d.wire.reply 0)) := by
  obtain ⟨s, passed⟩ := exists_inFlight accepted
  refine sends_of_settle passed ?_
  rw [Submission.inFlight?, Backend.requireText_eq] at passed
  cases solid : Text.isBlankText given with
  | true =>
    rw [solid] at passed
    cases passed
  | false =>
    rw [solid] at passed
    have started : d.store.startTextJob job (Text.trim given) = .ok s := toOption_eq_some.1 passed
    exact submitText_of_call solid started (Backend.call_of_reaches reaches .text _)

theorem sends_answer (reaches : d.wire.Reaches d.config.serverUrl address)
    (accepted : ¬ (Submission.answer given).Rejected d.store) :
    ∃ session, d.store.snapshot.clarification.current = some session ∧
      d.Sends (.answer given)
        [Backend.post address
          (.json (.obj [("session_id", .str session.id), ("text", .str (Text.trim given))]))
          "/api/pipeline/clarify"]
        (Backend.outcomeOfReply .clarify (address "/api/pipeline/clarify") (d.wire.reply 0)) := by
  obtain ⟨s, passed⟩ := exists_inFlight accepted
  have inFlight := passed
  rw [Submission.inFlight?, Backend.requireText_eq] at passed
  cases solid : Text.isBlankText given with
  | true =>
    rw [solid] at passed
    cases passed
  | false =>
    rw [solid] at passed
    obtain ⟨⟨session, s'⟩, found, rfl⟩ := Option.map_eq_some_iff.1 passed
    have taken := toOption_eq_some.1 found
    refine ⟨session, current_of_takeSession taken, sends_of_settle inFlight ?_⟩
    exact answer_of_call solid taken (Backend.call_of_reaches reaches .clarify _)

/-- A recording goes out with all that is sent for it. -/
theorem sends_recording {wav : List UInt8}
    (accepted : ¬ (Submission.recording wav).Rejected d.store) {requests : List Http.Request}
    {result : Except Backend.Fault Outcome}
    (sent : Backend.sendAudio d.config.serverUrl wav d.wire = (result, d.wire.served requests)) :
    d.Sends (.recording wav) requests result := by
  have base : d.baseUrl = d.config.serverUrl := rfl
  obtain ⟨s, passed⟩ := exists_inFlight accepted
  have stopped : d.store.stopRecording = .ok s := toOption_eq_some.1 passed
  refine sends_of_settle passed ?_
  simp only [submit, upload, stopped, base, sent]
  rfl

theorem requestsAt_of_reaches (reaches : d.wire.Reaches d.config.serverUrl address) :
    d.RequestsAt address where
  text := by
    intro job given accepted
    exact ⟨_, Backend.replyMeans_outcomeOfReply _ _ _, sends_text reaches accepted⟩
  answer := by
    intro given accepted
    obtain ⟨session, live, sends⟩ := sends_answer reaches accepted
    exact ⟨session, live, _, Backend.replyMeans_outcomeOfReply _ _ _, sends⟩
  recording := by
    intro wav accepted there
    have sent := Backend.sendAudio_of_reaches reaches wav
    rw [there, if_neg Bool.false_ne_true] at sent
    exact ⟨_, Backend.replyMeans_outcomeOfReply _ _ _, sends_recording accepted sent⟩
  transcribed := by
    intro wav accepted missing
    have sent := Backend.sendAudio_of_reaches reaches wav
    rw [missing, if_pos rfl] at sent
    exact ⟨_, Backend.replyMeans_outcomeOfReply _ _ _, sends_recording accepted sent⟩
  health := by
    have base : d.baseUrl = d.config.serverUrl := rfl
    rw [checkHealth, base, Backend.health_of_reaches reaches]
  below := by
    intro channel found unmarked
    obtain ⟨front, below⟩ := exists_below found unmarked
    exact ⟨front, fun path mem => below path mem _ (reaches.target path mem)⟩

/-- Asking for the health leaves everything but the wire alone. -/
theorem checkHealth_snd (d : Desk) : d.checkHealth.2 = { d with wire := d.checkHealth.2.wire } := by
  simp only [checkHealth]

/-- **What a command sends.** -/
theorem submit_requests (d : Desk) : d.Requests where
  rejected := by
    intro sub rejected
    exact submit_of_rejected ((inFlight?_eq_none_iff d.store sub).2 rejected)
  health := checkHealth_snd d
  sent := by
    intro address reaches
    exact requestsAt_of_reaches reaches
  decided := Backend.existsUnique_replyMeans

/-- A recording is sent to a server that only transcribes: a blank text sends nothing meanwhile, the
recording is sent twice, to two paths, and what is folded in is the text in the second reply. -/
theorem submit_requests_transcribed :
    let d : Desk := { Desk.new (.inMemory .standard) .nothing
        (.scripted [.answer 404 "" false, .answer 200 "\x7b\"text\":\"fix it\"\x7d" false]) with
      store := Store.initial.update (·.beginJob "job" .recording "Recording…") }
    (∃ fault, d.submit (.text "job" " ") = (.error fault, d)) ∧
      ∃ address, d.wire.Reaches d.config.serverUrl address ∧
        address "/api/pipeline/run/audio" ≠ address "/api/transcribe" ∧
        (d.submit (.recording [82, 73])).1 = .ok (.transcription "fix it" none) ∧
        (d.submit (.recording [82, 73])).2.wire.arrived =
          [Backend.post address (.recording [82, 73]) "/api/pipeline/run/audio",
            Backend.post address (.recording [82, 73]) "/api/transcribe"] := by
  intro d
  have server : d.config.serverUrl = "http://localhost:8000" := rfl
  have makes : ∀ path ∈ Backend.paths, ∃ u,
      Http.target (Backend.address d.config.serverUrl path) = .ok u ∧ u.scheme ∈ d.wire.schemes := by
    have plain : Backend.paths.all (fun path =>
        (Http.target (Backend.address "http://localhost:8000" path)).toOption.any
          (·.scheme == "http")) = true := by
      decide +kernel
    intro path mem
    obtain ⟨u, found, http⟩ := (Option.any_eq_true _ _).1 (List.all_eq_true.1 plain path mem)
    exact ⟨u, toOption_eq_some.1 found, List.mem_singleton.2 (beq_iff_eq.1 http)⟩
  obtain ⟨address, reaches⟩ := Http.Wire.exists_reaches makes
  have requests := submit_requests d
  have sent := requests.sent address reaches
  have recording : ¬ (Submission.recording [82, 73]).Rejected d.store := by
    rintro ⟨_, refused⟩
    cases refused
  obtain ⟨channel, found⟩ : ∃ channel, Channel.url d.config.serverUrl = .ok channel := by
    have some : (Channel.url "http://localhost:8000").toOption.isSome = true := by decide +kernel
    obtain ⟨channel, found⟩ := Option.isSome_iff_exists.1 some
    exact ⟨channel, toOption_eq_some.1 found⟩
  have unmarked : ∀ c ∈ d.config.serverUrl.toList, c ≠ '?' ∧ c ≠ '#' := by
    have plain : "http://localhost:8000".toList.all (fun c => c != '?' && c != '#') = true := by
      decide
    intro c mem
    simpa using List.all_eq_true.1 plain c mem
  obtain ⟨front, below⟩ := sent.below channel found unmarked
  obtain ⟨result, means, sends⟩ := sent.transcribed _ recording rfl
  obtain rfl : result = .ok (.transcription "fix it" none) := by
    have spelled : Json.parse? "\x7b\"text\":\"fix it\"\x7d" =
        some (.obj [("text", .str "fix it")]) := by decide +kernel
    have read : Backend.ReplyMeans .transcribe (address "/api/transcribe") (d.wire.reply 1)
        (.ok (.transcription "fix it" none)) :=
      .outcome (by omega) (by omega) (by omega) spelled
        (.transcription rfl (by decide) rfl rfl rfl)
    exact means.eq.symm.trans read.eq
  refine ⟨requests.rejected _ (Or.inl (by decide)), address, reaches, ?_, ?_, ?_⟩
  · intro alike
    have audio := (below "/api/pipeline/run/audio" (by decide)).path
    rw [alike, (below "/api/transcribe" (by decide)).path, String.append_right_inj] at audio
    exact absurd audio (by decide)
  · exact sends.returned
  · obtain ⟨s, -, left⟩ := sends.left
    rw [left]
    rfl

end Desk

end VoiceTicket
