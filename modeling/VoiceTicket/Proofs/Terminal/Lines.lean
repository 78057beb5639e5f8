/-
  What a line does, and what it does not do.

  1. **Data** — `Input.Spells line name argument`: the line is a command with this name and this
     argument.  `Input.IsText line`: it is text for the pipeline.  `Desk.Aside` and `Desk.Posts` say
     what has happened between two desks: nothing that concerns a job, or one call to a path of the
     server.  `Desk.Avoids`: nothing has been sent to a path.

  2. **Specification** — `heeded_handle`: every line is blank, a command or text, and does what
     these do (`Heeded`), whatever the store, the settings and the replies of the server.

  3. **Crux** — a line is cut in only one place: the name has no blank in it, and what follows is
     nothing or begins with one (`Input.Spells.unique`).  Text that is left of a line is not blank,
     so it passes the look that the commands take at it before they look at the store.
-/
import VoiceTicket.Proofs.Desk.Requests
import VoiceTicket.Proofs.Store.Frame
import VoiceTicket.Proofs.Text.Runs
import VoiceTicket.Terminal.Dialogue

namespace VoiceTicket

/-! ## Lines -/

namespace Input

/-- A line is a command: a colon, the name up to the first blank, and the argument behind it. -/
def Spells (line name argument : String) : Prop :=
  ∃ rest, (Text.trim line).toList = ':' :: (name.toList ++ rest) ∧
    (∀ c ∈ name.toList, Text.isBlank c = false) ∧ (∀ c ∈ rest.head?, Text.isBlank c = true) ∧
    argument = Text.trim (String.ofList rest)

/-- A line is text for the pipeline: there is something on it, and no colon comes first. -/
def IsText (line : String) : Prop :=
  Text.trim line ≠ "" ∧ (Text.trim line).toList.head? ≠ some ':'

/-- The commands that end the session. -/
def quitNames : List String := ["q", "quit", "exit"]

/-- The commands that there are. -/
def names : List String := quitNames ++ ["url", "status", "health", "reset", "h", "help"]

variable {line name argument : String}

theorem read_eq (line : String) : read line = ofTrimmed (Text.trim line).toList := by
  rw [read, Text.toList_trim]

/-- The name and what follows it, as they are cut. -/
theorem Spells.cut (spells : Spells line name argument) :
    ∃ command, (Text.trim line).toList = ':' :: command ∧
      name.toList = command.takeWhile (!Text.isBlank ·) ∧
      argument.toList = Text.trimChars (command.dropWhile (!Text.isBlank ·)) := by
  obtain ⟨rest, trimmed, solid, blank, rfl⟩ := spells
  obtain ⟨taken, dropped⟩ := Text.span_append (p := (!Text.isBlank ·))
    (fun c mem => by rw [solid c mem]; rfl) (fun c mem => by rw [blank c mem]; rfl)
  exact ⟨name.toList ++ rest, trimmed, taken.symm, by rw [dropped, Text.toList_trim]; simp⟩

/-- A line with a colon in front is a command. -/
theorem exists_spells (colon : (Text.trim line).toList.head? = some ':') :
    ∃ name argument, Spells line name argument := by
  obtain ⟨command, trimmed⟩ := List.head?_eq_some_iff.1 colon
  refine ⟨String.ofList (command.takeWhile (!Text.isBlank ·)), _,
    command.dropWhile (!Text.isBlank ·), ?_, ?_, ?_, rfl⟩
  · rw [String.toList_ofList, List.takeWhile_append_dropWhile, trimmed]
  · intro c mem
    rw [String.toList_ofList] at mem
    simpa using Text.of_mem_takeWhile mem
  · intro c mem
    simpa using Text.head?_dropWhile command c mem

/-- **There is only one cut.** -/
theorem Spells.unique {name' argument' : String} (spells : Spells line name argument)
    (spells' : Spells line name' argument') : name = name' ∧ argument = argument' := by
  obtain ⟨command, trimmed, named, argued⟩ := spells.cut
  obtain ⟨command', trimmed', named', argued'⟩ := spells'.cut
  obtain rfl : command = command' := by
    rw [trimmed] at trimmed'
    exact (List.cons.inj trimmed').2
  rw [← String.toList_inj, ← String.toList_inj, named, named', argued, argued']
  exact ⟨rfl, rfl⟩

/-- A command is looked up by its name and its argument. -/
theorem read_of_spells (spells : Spells line name argument) :
    read line = (command? name.toList argument.toList).getD (.unknown (Text.trim line)) := by
  obtain ⟨command, trimmed, named, argued⟩ := spells.cut
  have whole : String.ofList (':' :: command) = Text.trim line := by
    rw [← trimmed, String.ofList_toList]
  rw [read_eq, trimmed, ofTrimmed, named, argued, whole]

/-- There is something on a line of text. -/
theorem IsText.solid (text : IsText line) : Text.isBlankText (Text.trim line) = false := by
  rw [Text.isBlankText, Text.trim_trim, ← Bool.not_eq_true, String.isEmpty_iff]
  exact text.1

/-- Text is carried as a whole. -/
theorem read_of_isText (text : IsText line) : read line = .text (Text.trim line) := by
  rw [read_eq, ofTrimmed.eq_def]
  split
  · next trimmed => exact absurd (String.toList_eq_nil_iff.1 trimmed) text.1
  · next command trimmed =>
    refine absurd ?_ text.2
    rw [trimmed]
    rfl
  · rw [String.ofList_toList]

theorem read_of_blank (blank : Text.trim line = "") : read line = .empty := by
  rw [read_eq, blank]
  rfl

/-- A line is blank, a command or text. -/
theorem line_cases (line : String) :
    Text.trim line = "" ∨ (∃ name argument, Spells line name argument) ∨ IsText line := by
  by_cases blank : Text.trim line = ""
  · exact Or.inl blank
  · by_cases colon : (Text.trim line).toList.head? = some ':'
    · exact Or.inr (Or.inl (exists_spells colon))
    · exact Or.inr (Or.inr ⟨blank, colon⟩)

/-- A command is no text. -/
theorem Spells.not_isText (spells : Spells line name argument) : ¬ IsText line := by
  obtain ⟨command, trimmed, -, -⟩ := spells.cut
  intro text
  apply text.2
  rw [trimmed]
  rfl

/-! ## The table of commands -/

/-- There is no command for a name that is not in the table, nor for a URL that is missing. -/
theorem command?_eq_none_iff :
    command? name.toList argument.toList = none ↔
      name ∉ names ∨ (name = "url" ∧ argument = "") := by
  unfold command?
  rw [String.ofList_toList]
  split
  all_goals simp_all [names, quitNames]

/-- A command ends the session exactly by its name. -/
theorem command?_eq_quit_iff (name argument : String) :
    command? name.toList argument.toList = some .quit ↔ name ∈ quitNames := by
  unfold command?
  rw [String.ofList_toList]
  split
  all_goals simp_all [quitNames]

/-- No command is text, whether there is such a command or not. -/
theorem read_ne_text (spells : Spells line name argument) (text : String) :
    read line ≠ .text text := by
  rw [read_of_spells spells]
  unfold command?
  repeat' split
  all_goals simp

/-- A line ends the session exactly if it is one of these commands. -/
theorem read_eq_quit_iff :
    read line = .quit ↔ ∃ name argument, Spells line name argument ∧ name ∈ quitNames := by
  constructor
  · intro quit
    rcases line_cases line with blank | ⟨name, argument, spells⟩ | is_text
    · rw [read_of_blank blank] at quit
      cases quit
    · refine ⟨name, argument, spells, (command?_eq_quit_iff name argument).1 ?_⟩
      rw [read_of_spells spells] at quit
      cases found : command? name.toList argument.toList with
      | none =>
        rw [found] at quit
        cases quit
      | some input =>
        rw [found] at quit
        exact congrArg some quit
    · rw [read_of_isText is_text] at quit
      cases quit
  · rintro ⟨name, argument, spells, known⟩
    rw [read_of_spells spells, (command?_eq_quit_iff name argument).2 known]
    rfl

end Input

/-! ## Desks -/

namespace Http.Wire

/-- At most one more request has arrived, and it is this one. -/
def Gains (w : Wire) (method : Method) (url : String) (content : Content) (w' : Wire) : Prop :=
  w'.arrived = w.arrived ∨
    ∃ u, target url = .ok u ∧ w'.arrived = w.arrived ++ [⟨method, u.withoutFragment, content⟩]

theorem gains_send (w : Wire) (method : Method) (url : String) (content : Content) :
    w.Gains method url content (w.send method url content).2 := by
  unfold send
  split
  · exact Or.inl rfl
  · next u found =>
    split
    · exact Or.inr ⟨u, found, rfl⟩
    · exact Or.inl rfl

end Http.Wire

namespace Desk

/-- No job has been begun and no session answered: the store is as it was, but for a note in the
log, or it has been reset; and nothing has been sent but a question for the health. -/
structure Aside (d d' : Desk) : Prop where
  store : d'.store = d.store ∨ (∃ message, d'.store = d.store.note message) ∨
    d'.store = d.store.reset
  sent : d.wire.Gains .get (Backend.address d.config.serverUrl "/health") .nothing d'.wire

/-- One call has been made to a path of the server, and the settings have been left alone. -/
structure Posts (d : Desk) (path : String) (content : Http.Content) (d' : Desk) : Prop where
  wire : d'.wire = (d.wire.send .post (Backend.address d.config.serverUrl path) content).2
  /-- There is one more request at the server, or none. -/
  once : d.wire.Gains .post (Backend.address d.config.serverUrl path) content d'.wire
  config : d'.config = d.config
  place : d'.place = d.place

/-- Nothing has been sent to a path of the server. -/
structure Avoids (d : Desk) (path : String) (d' : Desk) : Prop where
  /-- What has been sent, if anything has, was sent to another address. -/
  address : ∃ method text content, text ≠ Backend.address d.config.serverUrl path ∧
    d.wire.Gains method text content d'.wire
  /-- What has arrived was not for that path, unless a query or a fragment begins in the server
  URL. -/
  request : ∀ channel, Channel.url d.config.serverUrl = .ok channel →
    (∀ c ∈ d.config.serverUrl.toList, c ≠ '?' ∧ c ≠ '#') →
      ∀ u, Http.target (Backend.address d.config.serverUrl path) = .ok u →
        ∀ r, d'.wire.arrived = d.wire.arrived ++ [r] → r.url.path ≠ u.path

variable {d : Desk}

theorem Aside.refl (d : Desk) : d.Aside d := ⟨Or.inl rfl, Or.inl rfl⟩

/-- What is sent to a path is not sent to another. -/
theorem avoids_of_gains {d' : Desk} {p q : String} {method : Http.Method} {content : Http.Content}
    (gains : d.wire.Gains method (Backend.address d.config.serverUrl p) content d'.wire)
    (mem : p ∈ Backend.paths) (mem' : q ∈ Backend.paths) (other : p ≠ q) : d.Avoids q d' := by
  refine ⟨⟨method, _, content, fun same => other (Backend.address_inj.1 same), gains⟩, ?_⟩
  intro channel found unmarked u made' r more
  rcases gains with same | ⟨v, made, same⟩
  · rw [same] at more
    exact absurd (List.self_eq_append_right.1 more) (List.cons_ne_nil r [])
  · rw [same] at more
    obtain rfl := List.singleton_inj.1 (List.append_cancel_left more)
    have apart : v.path ≠ u.path := path_ne_of_target found unmarked mem mem' other made made'
    exact apart

theorem Aside.avoids {d' : Desk} (aside : d.Aside d') : d.Avoids "/api/pipeline/clarify" d' :=
  avoids_of_gains aside.sent (by decide) (by decide) (by decide)

/-- An edit of the server URL makes a note at most. -/
theorem aside_setServerUrl (d : Desk) (text : String) : d.Aside (d.setServerUrl text).2 := by
  unfold setServerUrl
  split
  · exact ⟨Or.inl rfl, Or.inl rfl⟩
  · exact ⟨Or.inr (Or.inl ⟨_, rfl⟩), Or.inl rfl⟩

theorem wire_checkHealth (d : Desk) :
    d.checkHealth.2.wire =
      (d.wire.send .get (Backend.address d.config.serverUrl "/health") .nothing).2 := by
  have path : Endpoint.health.path = "/health" := rfl
  simp only [checkHealth, Backend.health, Backend.request, baseUrl, Backend.url_eq, path]

/-- A question for the health is the only thing that it sends. -/
theorem aside_checkHealth (d : Desk) : d.Aside d.checkHealth.2 := by
  have same : d.checkHealth.2.store = d.store := by rw [checkHealth_snd]
  have once := d.wire.gains_send .get (Backend.address d.config.serverUrl "/health") .nothing
  rw [← wire_checkHealth] at once
  exact ⟨Or.inl same, once⟩

/-- What is folded in at the end of a call leaves the id of the job alone. -/
theorem job_settle (d : Desk) (action : String) (answer : Except Backend.Fault Outcome) :
    (d.settle action answer).2.store.snapshot.job = d.store.snapshot.job := by
  cases answer with
  | error fault => rfl
  | ok outcome =>
    cases outcome with
    | ticket | transcription => rfl
    | clarification session ambiguity =>
      obtain ⟨level, message, status, label, tracker, opened⟩ :=
        d.store.snapshot.openSession_cases session
      show (d.store.snapshot.openSession session).job = _
      rw [opened]
      rfl

/-- What is folded in after a call sends nothing more. -/
theorem posts_of_call {endpoint : Endpoint} {content : Http.Content} {w : Http.Wire}
    {reply : Except Backend.Fault Outcome}
    (called : Backend.call d.config.serverUrl endpoint content d.wire = (reply, w))
    (store : Store) (action : String) :
    d.Posts endpoint.path content (({ d with store, wire := w } : Desk).settle action reply).2 := by
  have sent : (d.wire.send .post (Backend.address d.config.serverUrl endpoint.path) content).2 =
      w := by
    simp only [Backend.call, Backend.request, Prod.mk.injEq] at called
    exact called.2
  have once := d.wire.gains_send .post (Backend.address d.config.serverUrl endpoint.path) content
  rw [sent] at once
  cases reply with
  | ok outcome => exact ⟨sent.symm, once, rfl, rfl⟩
  | error fault => exact ⟨sent.symm, once, rfl, rfl⟩

/-! ## Text at the desk -/

variable {text : String} {session : Session}

/-- An answer is posted with the id of the session that was live, and the job stays the same. -/
theorem answer_of_live (solid : Text.isBlankText text = false)
    (live : d.store.snapshot.clarification.current = some session) :
    d.Posts "/api/pipeline/clarify"
        (.json (.obj [("session_id", .str session.id), ("text", .str (Text.trim text))]))
        (d.answer text).2 ∧
      (d.answer text).2.store.snapshot.job = d.store.snapshot.job := by
  obtain ⟨s, taken, same⟩ : ∃ s, d.store.takeSession = .ok (session, s) ∧
      s.snapshot.job = d.store.snapshot.job := by
    unfold Store.takeSession
    rw [live]
    exact ⟨_, rfl, rfl⟩
  obtain ⟨reply, w, called⟩ : ∃ reply w, Backend.call d.config.serverUrl .clarify
      (.json (.obj [("session_id", .str session.id), ("text", .str (Text.trim text))])) d.wire =
        (reply, w) := ⟨_, _, rfl⟩
  rw [answer_of_call solid taken called, job_settle]
  exact ⟨posts_of_call called s _, same⟩

/-- A job is begun where the status allows it, and its text is posted. -/
theorem submitText_of_canStart (job : String) (solid : Text.isBlankText text = false)
    (idle : d.store.snapshot.status.canStart = true) :
    d.Posts "/api/pipeline/run" (.json (.obj [("text", .str (Text.trim text))]))
        (d.submitText job text).2 ∧
      (d.submitText job text).2.store.snapshot.job = some job := by
  obtain ⟨s, started, fresh⟩ : ∃ s, d.store.startTextJob job (Text.trim text) = .ok s ∧
      s.snapshot.job = some job := by
    unfold Store.startTextJob Store.beginJob
    rw [if_pos idle]
    exact ⟨_, rfl, rfl⟩
  obtain ⟨reply, w, called⟩ : ∃ reply w, Backend.call d.config.serverUrl .text
      (.json (.obj [("text", .str (Text.trim text))])) d.wire = (reply, w) := ⟨_, _, rfl⟩
  rw [submitText_of_call solid started called, job_settle]
  exact ⟨posts_of_call called s _, fresh⟩

/-- Where the status does not allow it, nothing happens. -/
theorem submitText_of_busy (job : String) (busy : d.store.snapshot.status.canStart = false) :
    (d.submitText job text).2 = d := by
  have refused (text : String) :
      d.store.startTextJob job text = .error (.busy d.store.snapshot.status) := by
    unfold Store.startTextJob Store.beginJob
    rw [busy]
    rfl
  unfold submitText
  split
  · rfl
  · rw [refused]

end Desk

/-! ## Lines at the terminal -/

namespace Terminal

open Input (Spells IsText)

@[simp] theorem desk_answered {α : Type} (lines : α → Desk → List String) (a : Desk.Answer α) :
    (answered lines a).desk = a.2 := by
  obtain ⟨_ | _, d⟩ := a <;> rfl

@[simp] theorem goesOn_answered {α : Type} (lines : α → Desk → List String) (a : Desk.Answer α) :
    (answered lines a).goesOn = true := by
  obtain ⟨_ | _, d⟩ := a <;> rfl

/-- What a line does at a desk, whatever the store, the settings and the replies of the server. -/
structure Heeded (d : Desk) (job line : String) (h : Handled) : Prop where
  /-- A blank line asks for nothing. -/
  blank : Text.trim line = "" → h = shows d []
  /-- A line with a colon in front is a command in one way. -/
  spelled : (Text.trim line).toList.head? = some ':' →
    ∃! command : String × String, Spells line command.1 command.2
  /-- It is looked up by its name and its argument. -/
  command : ∀ name argument, Spells line name argument → h = handle d job
    ((Input.command? name.toList argument.toList).getD (.unknown (Text.trim line)))
  /-- What is no text begins no job and answers no session. -/
  aside : ¬ IsText line → d.Aside h.desk
  /-- A command that there is not, and one that lacks its argument, leaves everything alone. -/
  unknown : ∀ name argument, Spells line name argument →
    name ∉ Input.names ∨ (name = "url" ∧ argument = "") → h.desk = d
  /-- Only three commands end the session. -/
  quits : h.goesOn = false ↔ ∃ name argument, Spells line name argument ∧ name ∈ Input.quitNames
  /-- Text is carried as a whole, but for the blanks around it. -/
  text : IsText line → Input.read line = .text (Text.trim line)
  /-- It answers the live session, and nothing else is sent. -/
  answers : IsText line → ∀ session, d.store.snapshot.clarification.current = some session →
    d.Posts "/api/pipeline/clarify"
        (.json (.obj [("session_id", .str session.id), ("text", .str (Text.trim line))])) h.desk ∧
      h.desk.store.snapshot.job = d.store.snapshot.job
  /-- Without a live session it begins a job where the status allows that, and its text is all that
  is sent. -/
  begins : IsText line → d.store.snapshot.clarification.current = none →
    d.store.snapshot.status = .idle ∨ d.store.snapshot.status = .done ∨
        d.store.snapshot.status = .error →
      d.Posts "/api/pipeline/run" (.json (.obj [("text", .str (Text.trim line))])) h.desk ∧
        h.desk.store.snapshot.job = some job
  /-- Otherwise nothing happens. -/
  busy : IsText line → d.store.snapshot.clarification.current = none →
    ¬ (d.store.snapshot.status = .idle ∨ d.store.snapshot.status = .done ∨
        d.store.snapshot.status = .error) → h.desk = d
  /-- Nothing but text for a live session is sent to where answers go. -/
  avoids : ¬ IsText line ∨ d.store.snapshot.clarification.current = none →
    d.Avoids "/api/pipeline/clarify" h.desk

variable {d : Desk} {job line : String}

/-- What is no text concerns no job. -/
theorem aside_handle {input : Input} (other : ∀ text, input ≠ .text text) :
    d.Aside (handle d job input).desk := by
  cases input with
  | quit | empty | help | unknown | showStatus => exact .refl d
  | reset => exact ⟨Or.inr (Or.inr rfl), Or.inl rfl⟩
  | setUrl url =>
    rw [handle, silently, desk_answered]
    exact d.aside_setServerUrl url
  | health =>
    rw [handle, desk_answered]
    exact d.aside_checkHealth
  | text text => exact absurd rfl (other text)

/-- Only one thing that a line may ask for ends the session. -/
theorem goesOn_handle (input : Input) : (handle d job input).goesOn = false ↔ input = .quit := by
  cases input with
  | quit => exact ⟨fun _ => rfl, fun _ => rfl⟩
  | empty | help | unknown | showStatus | reset => exact ⟨nofun, nofun⟩
  | setUrl | health => simp [handle, silently]
  | text => simp [handle, silently, apply_ite Handled.goesOn]

theorem handle_of_live {text : String} (live : d.store.snapshot.clarification.isActive = true) :
    (handle d job (.text text)).desk = (d.answer text).2 := by
  rw [handle, if_pos live, silently, desk_answered]

theorem handle_of_none {text : String} (idle : d.store.snapshot.clarification.current = none) :
    (handle d job (.text text)).desk = (d.submitText job text).2 := by
  have inactive : ¬ d.store.snapshot.clarification.isActive = true := by
    rw [Tracker.isActive, idle]
    exact Bool.false_ne_true
  rw [handle, if_neg inactive, silently, desk_answered]

/-- A line that is no text concerns no job. -/
theorem aside_of_not_isText (other : ¬ IsText line) :
    d.Aside (handle d job (.read line)).desk := by
  apply aside_handle
  intro text
  rcases Input.line_cases line with blank | ⟨name, argument, spells⟩ | is_text
  · rw [Input.read_of_blank blank]
    exact nofun
  · exact Input.read_ne_text spells text
  · exact absurd is_text other

theorem answers_of_live (is_text : IsText line) (session : Session)
    (live : d.store.snapshot.clarification.current = some session) :
    d.Posts "/api/pipeline/clarify"
        (.json (.obj [("session_id", .str session.id), ("text", .str (Text.trim line))]))
        (handle d job (.read line)).desk ∧
      (handle d job (.read line)).desk.store.snapshot.job = d.store.snapshot.job := by
  have active : d.store.snapshot.clarification.isActive = true := by
    rw [Tracker.isActive, live]
    rfl
  have answered := Desk.answer_of_live is_text.solid live
  rw [Text.trim_trim] at answered
  rw [Input.read_of_isText is_text, handle_of_live active]
  exact answered

theorem begins_of_free (job : String) (is_text : IsText line)
    (idle : d.store.snapshot.clarification.current = none)
    (free : d.store.snapshot.status = .idle ∨ d.store.snapshot.status = .done ∨
      d.store.snapshot.status = .error) :
    d.Posts "/api/pipeline/run" (.json (.obj [("text", .str (Text.trim line))]))
        (handle d job (.read line)).desk ∧
      (handle d job (.read line)).desk.store.snapshot.job = some job := by
  have submitted := Desk.submitText_of_canStart job is_text.solid ((Status.canStart_iff _).2 free)
  rw [Text.trim_trim] at submitted
  rw [Input.read_of_isText is_text, handle_of_none idle]
  exact submitted

theorem busy_of_taken (is_text : IsText line)
    (idle : d.store.snapshot.clarification.current = none)
    (taken : ¬ (d.store.snapshot.status = .idle ∨ d.store.snapshot.status = .done ∨
      d.store.snapshot.status = .error)) : (handle d job (.read line)).desk = d := by
  rw [Input.read_of_isText is_text, handle_of_none idle]
  apply Desk.submitText_of_busy
  rw [← Bool.not_eq_true, Status.canStart_iff]
  exact taken

/-- **What a line does.** -/
theorem heeded_handle (d : Desk) (job line : String) :
    Heeded d job line (handle d job (.read line)) where
  blank := by
    intro blank
    rw [Input.read_of_blank blank]
    rfl
  spelled := by
    intro colon
    obtain ⟨name, argument, spells⟩ := Input.exists_spells colon
    refine ⟨(name, argument), spells, ?_⟩
    rintro ⟨name', argument'⟩ spells'
    obtain ⟨rfl, rfl⟩ := spells.unique spells'
    rfl
  command := by
    intro name argument spells
    rw [Input.read_of_spells spells]
  aside := aside_of_not_isText
  unknown := by
    intro name argument spells missing
    rw [Input.read_of_spells spells, Input.command?_eq_none_iff.2 missing]
    rfl
  quits := by
    rw [goesOn_handle, Input.read_eq_quit_iff]
  text := Input.read_of_isText
  answers := answers_of_live
  begins := begins_of_free job
  busy := busy_of_taken
  avoids := by
    rintro (other | idle)
    · exact (aside_of_not_isText other).avoids
    · by_cases is_text : IsText line
      case neg => exact (aside_of_not_isText is_text).avoids
      by_cases free : d.store.snapshot.status = .idle ∨ d.store.snapshot.status = .done ∨
          d.store.snapshot.status = .error
      · have posted := (begins_of_free job is_text idle free).1
        exact Desk.avoids_of_gains posted.once (by decide) (by decide) (by decide)
      · rw [busy_of_taken is_text idle free]
        exact (Desk.Aside.refl d).avoids

/-- While a session is live: a blank behind the colon makes a command that there is not, text answers
the session and leaves the job alone, and only with the colon does `quit` end anything. -/
theorem heeded_handle_clarifying :
    let d : Desk := { Desk.new (.inMemory .standard) .nothing (.scripted []) with
      store := Store.initial.update (·.openSession ⟨"s", ["Which page?"], "", 1⟩) }
    (handle d "job" (.read " : quit")).desk = d ∧
      (handle d "job" (.read ":quit now")).goesOn = false ∧
      (handle d "job" (.read " quit\t")).goesOn = true ∧
      d.Posts "/api/pipeline/clarify" (.json (.obj [("session_id", .str "s"), ("text", .str "quit")]))
        (handle d "job" (.read " quit\t")).desk := by
  intro d
  have nameless : Spells " : quit" "" "quit" := by
    refine ⟨[' ', 'q', 'u', 'i', 't'], by decide +kernel, nofun, ?_, by decide +kernel⟩
    intro c mem
    cases mem
    decide
  have quit : Spells ":quit now" "quit" "now" := by
    have solid : "quit".toList.all (!Text.isBlank ·) = true := by decide +kernel
    refine ⟨[' ', 'n', 'o', 'w'], by decide +kernel, ?_, ?_, by decide +kernel⟩
    · intro c mem
      simpa using List.all_eq_true.1 solid c mem
    · intro c mem
      cases mem
      decide
  have trimmed : Text.trim " quit\t" = "quit" := by decide +kernel
  have is_text : IsText " quit\t" := by
    rw [IsText, trimmed]
    decide
  have mistyped := heeded_handle d "job" " : quit"
  have quits := heeded_handle d "job" ":quit now"
  have answers := heeded_handle d "job" " quit\t"
  refine ⟨?_, ?_, ?_, ?_⟩
  · exact mistyped.unknown _ _ nameless (Or.inl (by decide))
  · exact quits.quits.2 ⟨_, _, quit, by decide⟩
  · rw [← Bool.not_eq_false, answers.quits]
    rintro ⟨name, argument, spells, -⟩
    exact spells.not_isText is_text
  · have posted := (answers.answers is_text ⟨"s", ["Which page?"], "", 1⟩ (by decide +kernel)).1
    rw [trimmed] at posted
    exact posted

end Terminal

end VoiceTicket
