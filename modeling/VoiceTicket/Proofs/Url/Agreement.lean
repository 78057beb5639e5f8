/-
  Whether calls and the status channel go to the same server.

  1. **Data** — a base URL `Agrees` with an endpoint if the URL that calls to the endpoint are made
     to and that of the status channel have the same host and port, and the same path but for the
     last part of it.  It is `Tidy` if it has neither a query nor a fragment, ends in no padding,
     and its path ends in no empty segment.

  2. **Specification** — `agrees_iff_tidy`: of the base URLs that are kept, just those that are tidy
     agree, and with every endpoint.

  3. **Crux** — the channel takes the empty segments off the path of the base after resolving it
     (`Url.Parser.path_of_channel`), a call takes slashes off its text before
     (`Url.Parser.path_of_call`).  Both are the path up to there, one without the empty segments at
     its end; so they agree exactly if there are none, and lengths tell (`Url.Parser.lt_of_padded`,
     `Url.Parser.closed_of_size`).
-/
import VoiceTicket.Proofs.Url.Bases
import VoiceTicket.Proofs.Url.Paths

namespace VoiceTicket

open Url.Parser

/-! ## The paths of the endpoints -/

/-- The segments of the path of an endpoint. -/
def Endpoint.segments : Endpoint → List String
  | .audio => ["api", "pipeline", "run", "audio"]
  | .text => ["api", "pipeline", "run"]
  | .clarify => ["api", "pipeline", "clarify"]
  | .transcribe => ["api", "transcribe"]
  | .health => ["health"]

theorem Endpoint.appendable (e : Endpoint) : Appendable e.path e.segments := by
  cases e <;> exact appendable_of_all rfl rfl (by decide) (by decide)

theorem Endpoint.text_segments (e : Endpoint) : (Url.Path.segments e.segments).text = e.path := by
  cases e <;> decide

/-! ## The two sides -/

/-- The port that a URL leads to: its own, or the one that its scheme stands for. -/
def Url.port? (u : Url) : Option Nat :=
  (u.authority.bind (·.port)).or (Url.defaultPort? u.scheme)

/-- The URL of a call and that of the channel lead to the same server: to the same host and port,
and below the same path. -/
structure SameServer (channel call : Url) (endpoint : Endpoint) : Prop where
  host : call.host? = channel.host?
  port : call.port? = channel.port?
  path : ∃ base, channel.path.text = base ++ "/ws/status" ∧ call.path.text = base ++ endpoint.path
  query : call.query = none
  fragment : call.fragment = none

/-- Calls to an endpoint go where the channel goes. -/
def Agrees (base : String) (endpoint : Endpoint) : Prop :=
  ∃ channel call, Channel.url base = .ok channel ∧
    Url.parse (Backend.url base endpoint) = .ok call ∧ SameServer channel call endpoint

/-- A base URL without query and fragment, that does not end in padding, and whose path does not end
in an empty segment. -/
structure Tidy (base : String) : Prop where
  unmarked : ∀ c ∈ base.toList, c ≠ '?' ∧ c ≠ '#'
  solid : ∀ c ∈ (Text.trim base).toList.getLast?, isPadding c = false
  closed : ∃ u parts, Url.parse (Backend.baseUrl base ++ "/") = .ok u ∧ u.path = .segments parts ∧
    ¬ ["", ""] <:+ parts

variable {base scheme : String} {front host rest : List Char} {a : Url.Authority}

/-- The URL of a call, from the base up to where the path of the call is appended. -/
theorem parse_call (leads : Leads scheme front) (inner : Inner host) (stops : Stops rest)
    (whole : body (Backend.baseUrl base).toList = front ++ (host ++ rest)) {path : String}
    {segments : List String} (appendable : Appendable path segments) :
    Url.parse (Backend.baseUrl base ++ path) =
      (authority scheme .special false host).map (followedBy scheme (rest ++ path.toList)) := by
  obtain ⟨more, begins, -⟩ := appendable.begins
  have first : ∀ c ∈ path.toList.head?, isPadding c = false := by
    intro c mem
    exact appendable.solid c (List.mem_of_head? mem)
  have counted : path.toList.filter (!isSkipped ·) = path.toList :=
    List.filter_eq_self.2 fun c mem => not_isSkipped (appendable.solid c mem)
  have stops' : Stops (rest ++ path.toList) := by
    cases rest with
    | nil =>
      rw [begins]
      intro c mem
      cases mem
      rfl
    | cons c cs => exact stops
  obtain ⟨c, last⟩ : ∃ c, path.toList.getLast? = some c := by
    rw [begins]
    exact ⟨_, List.getLast?_cons⟩
  rw [parse_eq, clean_eq, String.toList_append, body_append_of_head first, counted, whole,
    Text.dropEndWhile_append _ last (appendable.solid c (List.mem_of_getLast? last)),
    List.append_assoc,
    List.append_assoc, leads host _ inner stops']

/-- No call can be made where the padding is at the end of the authority: no authority ends in
it. -/
theorem Apart.parse_ne_of_bare (apart : Apart base scheme front host [] a) {pad : List Char}
    (some : pad ≠ []) (all : ∀ d ∈ pad, isPadding d = true)
    (whole : body (Backend.baseUrl base).toList = front ++ (host ++ ([] ++ pad))) {path : String}
    {segments : List String} (appendable : Appendable path segments) (u : Url) :
    Url.parse (Backend.baseUrl base ++ path) ≠ .ok u := by
  have inner : Inner (host ++ pad) := by
    refine ⟨fun none' => apart.inner.some (List.append_eq_nil_iff.1 none').1, fun d mem => ?_⟩
    rcases List.mem_append.1 mem with inside | inside
    · exact apart.inner.inside d inside
    · exact endsAuthority_of_margin (Url.isMargin_of_isPadding (all d inside))
  have longer : body (Backend.baseUrl base).toList = front ++ ((host ++ pad) ++ []) := by
    rw [whole, List.append_nil, List.nil_append]
  have refused := parse_call apart.leads inner apart.stops longer appendable
  have last : (host ++ pad).getLast? = Option.some (pad.getLast some) := by
    rw [List.getLast?_append, List.getLast?_eq_some_getLast some, Option.some_or]
  have margin := Url.isMargin_of_isPadding (all _ (List.getLast_mem some))
  intro parsed
  cases read : authority scheme .special false (host ++ pad) with
  | error fault =>
    rw [refused, read] at parsed
    cases parsed
  | ok b => exact authority_of_margin last margin b read

/-- The path of a call is the path up to where it is appended, and what is appended. -/
theorem text_path_followedBy (unmarked : Unmarked rest) (stops : Stops rest) (e : Endpoint) :
    (followedBy scheme (rest ++ e.path.toList) a).path.text =
      (Url.Path.segments (upTo rest)).text ++ e.path := by
  have all := unmarked_append.2 ⟨unmarked, e.appendable.unmarked⟩
  show (pathAfterAuthority .special (Tail.of (rest ++ e.path.toList)).path).text = _
  rw [all.path, path_of_call unmarked stops e.appendable, text_append, e.text_segments]

/-- A call whose rest is all path has neither a query nor a fragment. -/
theorem unmarked_followedBy (scheme : String) (a : Url.Authority) (unmarked : Unmarked rest)
    (e : Endpoint) :
    (followedBy scheme (rest ++ e.path.toList) a).query = none ∧
      (followedBy scheme (rest ++ e.path.toList) a).fragment = none := by
  obtain ⟨query, fragment⟩ :=
    tail_eq_iff.2 (unmarked_append.2 ⟨unmarked, e.appendable.unmarked⟩)
  exact ⟨Option.map_eq_none_iff.2 query, Option.map_eq_none_iff.2 fragment⟩

/-- **The two sides compared**, for a base with the same authority: there is neither a query nor a
fragment, and the paths are the same up to what is appended to them. -/
theorem sameServer_iff {given : List Char} {ws : String} {parts : List String}
    (known : Channel.scheme? scheme = some ws) (stops : Stops rest)
    (path : pathAfterAuthority .special (Tail.of given).path = .segments parts) (e : Endpoint) :
    SameServer (Channel.ofServer (followedBy scheme given a) ws)
        (followedBy scheme (rest ++ e.path.toList) a) e ↔
      Unmarked rest ∧ (Url.Path.segments (Channel.dropEmptyEnd parts)).text =
        (Url.Path.segments (upTo rest)).text := by
  have channel : (Channel.ofServer (followedBy scheme given a) ws).path.text =
      (Url.Path.segments (Channel.dropEmptyEnd parts)).text ++ "/ws/status" := by
    rw [ofServer_followedBy path, text_append]
    exact congrArg _ (by decide)
  constructor
  · intro same
    have tail : (Tail.of (rest ++ e.path.toList)).query = none ∧
        (Tail.of (rest ++ e.path.toList)).fragment = none :=
      ⟨Option.map_eq_none_iff.1 same.query, Option.map_eq_none_iff.1 same.fragment⟩
    have unmarked := (unmarked_append.1 (tail_eq_iff.1 tail)).1
    obtain ⟨base, ours, theirs⟩ := same.path
    rw [channel] at ours
    rw [text_path_followedBy unmarked stops] at theirs
    rw [(String.append_left_inj _).1 ours, (String.append_left_inj _).1 theirs]
    exact ⟨unmarked, rfl⟩
  · rintro ⟨unmarked, same⟩
    obtain ⟨query, fragment⟩ := unmarked_followedBy scheme a unmarked e
    refine ⟨rfl, ?_, ⟨_, channel, ?_⟩, query, fragment⟩
    · show (a.port).or (Url.defaultPort? scheme) = (a.port).or (Url.defaultPort? ws)
      rw [(Channel.of_scheme? known).2.2]
    · rw [text_path_followedBy unmarked stops, same]

/-! ## Tidy bases -/

/-- What is neither of the margin nor a slash is in a base URL exactly if it is in what calls go
to. -/
theorem mem_body_baseUrl (base : String) {c : Char} (solid : Url.isMargin c = false)
    (slash : (c == '/') = false) :
    c ∈ body (Backend.baseUrl base).toList ↔ c ∈ base.toList := by
  obtain ⟨visible, unpadded⟩ := Bool.or_eq_false_iff.1 solid
  rw [mem_body unpadded, toList_baseUrl, Text.mem_dropEndWhile (p := (· == '/')) slash,
    Text.mem_trimChars visible]

/-- A query or a fragment begins in a base URL exactly if one begins in what calls have behind its
authority. -/
theorem Apart.unmarked_iff (apart : Apart base scheme front host rest a) {shorter : List Char}
    (whole : body (Backend.baseUrl base).toList = front ++ (host ++ shorter)) :
    Unmarked base.toList ↔ Unmarked shorter :=
  apart.unmarked_iff_of_counted whole fun _ => mem_body_baseUrl base

/-- A base URL that ends in no padding is tidy exactly if the path that calls go to is. -/
theorem tidy_iff_of_solid (apart : Apart base scheme front host rest a)
    (solid : ∀ c ∈ (Text.trim base).toList.getLast?, isPadding c = false) {shorter : List Char}
    (stops : Stops shorter)
    (whole : body (Backend.baseUrl base).toList = front ++ (host ++ shorter)) :
    Tidy base ↔ Unmarked shorter ∧ ¬ [""] <:+ upTo shorter := by
  have slashed := parse_call apart.leads apart.inner stops whole appendable_slash
  rw [apart.read] at slashed
  have path (unmarked : Unmarked shorter) : (followedBy scheme (shorter ++ "/".toList) a).path =
      .segments (upTo shorter ++ [""]) := by
    have all := unmarked_append.2 ⟨unmarked, appendable_slash.unmarked⟩
    show pathAfterAuthority .special (Tail.of (shorter ++ "/".toList)).path = _
    rw [all.path, path_of_call unmarked stops appendable_slash]
  constructor
  · intro tidy
    have unmarked := (apart.unmarked_iff whole).1 tidy.unmarked
    obtain ⟨u, parts, parsed, segments, closed⟩ := tidy.closed
    rw [slashed] at parsed
    cases parsed
    rw [path unmarked] at segments
    cases segments
    rw [closed_iff] at closed
    exact ⟨unmarked, closed⟩
  · rintro ⟨unmarked, closed⟩
    exact ⟨(apart.unmarked_iff whole).2 unmarked, solid,
      ⟨_, _, slashed, path unmarked, fun open' => closed (closed_iff.1 open')⟩⟩

/-! ## Agreement -/

/-- Whether a base URL agrees with an endpoint, by the rest of it and what calls have behind the
authority. -/
theorem agrees_iff_of_body (apart : Apart base scheme front host rest a) {ws : String}
    (known : Channel.scheme? scheme = some ws) {behind : List Char} (stops : Stops behind)
    (whole : body (Backend.baseUrl base).toList = front ++ (host ++ behind)) {parts : List String}
    (path : pathAfterAuthority .special (Tail.of rest).path = .segments parts) (e : Endpoint) :
    Agrees base e ↔ Unmarked behind ∧ (Url.Path.segments (Channel.dropEmptyEnd parts)).text =
      (Url.Path.segments (upTo behind)).text := by
  have found := apart.channel known
  have parsed := parse_call apart.leads apart.inner stops whole e.appendable
  rw [apart.read] at parsed
  rw [← sameServer_iff (a := a) known stops path e]
  constructor
  · rintro ⟨channel, call, found', parsed', same⟩
    rw [found] at found'
    rw [Backend.url, parsed] at parsed'
    cases found'
    cases parsed'
    exact same
  · exact fun same => ⟨_, _, found, parsed, same⟩

/-- A base URL that ends in padding agrees with no endpoint. -/
theorem not_agrees_of_padded (apart : Apart base scheme front host rest a) {ws : String}
    (known : Channel.scheme? scheme = some ws) {c : Char}
    (last : (Text.trim base).toList.getLast? = some c) (padding : isPadding c = true)
    (e : Endpoint) : ¬ Agrees base e := by
  obtain ⟨pad, some, all, whole⟩ := apart.body_of_padded last padding
  by_cases bare : rest = []
  · subst bare
    rintro ⟨channel, call, found, parsed, same⟩
    exact apart.parse_ne_of_bare some all whole e.appendable call parsed
  · -- It is at the end of the path, which it makes longer.
    have stops := apart.stops.append bare pad
    intro agrees
    obtain ⟨unmarked, texts⟩ := (agrees_iff_of_body apart known stops whole rfl e).1 agrees
    have plain := (unmarked_append.1 unmarked).1
    rw [plain.path] at texts
    have less := lt_of_padded plain apart.stops bare some
      (fun d mem => Url.isMargin_of_isPadding (all d mem)) rfl
    rw [← length_text, ← length_text, texts] at less
    exact Nat.lt_irrefl _ less

/-- A base URL that ends in no padding agrees with an endpoint exactly if the path that calls go to
is tidy. -/
theorem agrees_iff_of_solid (apart : Apart base scheme front host rest a) {ws : String}
    (known : Channel.scheme? scheme = some ws) {shorter : List Char} {n : Nat}
    (stops : Stops shorter) (longer : rest = shorter ++ List.replicate n '/')
    (whole : body (Backend.baseUrl base).toList = front ++ (host ++ shorter)) (e : Endpoint) :
    Agrees base e ↔ Unmarked shorter ∧ ¬ [""] <:+ upTo shorter := by
  rw [agrees_iff_of_body apart known stops whole rfl e]
  refine and_congr_right fun unmarked => ?_
  have all := unmarked_append.2 ⟨unmarked, unmarked_slashes n⟩
  rw [longer, all.path, path_of_channel unmarked stops n rfl]
  constructor
  · intro texts
    have lengths := congrArg String.length texts
    rw [length_text, length_text] at lengths
    exact closed_of_size lengths
  · intro closed
    rw [dropEmptyEnd_of_closed closed]

/-- **Where the two sides of the client agree.**  The base URLs in the form in which they are kept
all have a channel; and calls to an endpoint go where that is exactly if the base URL is tidy. -/
theorem agrees_iff_tidy {text kept : String} (accepted : Channel.serverUrl text = .ok kept)
    (e : Endpoint) : (∃ channel, Channel.url kept = .ok channel) ∧ (Agrees kept e ↔ Tidy kept) := by
  obtain ⟨scheme, ws, front, host, rest, a, known, apart⟩ := apart_of_serverUrl accepted
  refine ⟨⟨_, apart.channel known⟩, ?_⟩
  by_cases solid : ∀ c ∈ (Text.trim kept).toList.getLast?, isPadding c = false
  · obtain ⟨shorter, n, longer, whole⟩ := apart.body_of_solid solid
    have stops : Stops shorter := by
      have all := apart.stops
      rw [longer] at all
      exact all.of_append
    rw [agrees_iff_of_solid apart known stops longer whole e,
      tidy_iff_of_solid apart solid stops whole]
  · constructor
    · intro agrees
      refine absurd (fun c last => ?_) solid
      rw [Bool.eq_false_iff]
      intro padding
      exact not_agrees_of_padded apart known last padding e agrees
    · exact fun tidy => absurd tidy.solid solid

/-- A base URL with a query: what a call appends goes to the query. -/
theorem not_forall_agrees :
    ¬ ∀ (text kept : String) (e : Endpoint), Channel.serverUrl text = .ok kept → Agrees kept e := by
  intro all
  have accepted : Channel.serverUrl "http://10.0.0.5:8000/?debug=1" =
      .ok "http://10.0.0.5:8000/?debug=1" := toOption_eq_some.1 (by decide +kernel)
  obtain ⟨channel, call, -, parsed, same⟩ := all _ _ .health accepted
  have query :
      (Url.parse (Backend.url "http://10.0.0.5:8000/?debug=1" .health)).toOption.map (·.query) =
        some (some "debug=1/health") := by
    decide +kernel
  rw [parsed] at query
  have found : call.query = some "debug=1/health" := Option.some.inj query
  rw [same.query] at found
  cases found

/-- A path below the host does no harm, but a dot segment behind an empty one does. -/
theorem agrees_iff_tidy_dotted :
    Agrees "http://localhost:8000/a" .health ∧ ¬ Agrees "http://localhost:8000/a//." .health := by
  have accepted : Channel.serverUrl " http://localhost:8000/a/" = .ok "http://localhost:8000/a" :=
    toOption_eq_some.1 (by decide +kernel)
  have accepted' : Channel.serverUrl "http://localhost:8000/a//." =
      .ok "http://localhost:8000/a//." := toOption_eq_some.1 (by decide +kernel)
  constructor
  · have last : (Text.trim "http://localhost:8000/a").toList.getLast? = some 'a' := by
      decide +kernel
    have plain : "http://localhost:8000/a".toList.all (fun c => c != '?' && c != '#') = true := by
      decide
    refine (agrees_iff_tidy accepted .health).2.2 ⟨fun c mem => ?_, fun c mem => ?_, ?_⟩
    · simpa using List.all_eq_true.1 plain c mem
    · rw [last] at mem
      cases mem
      decide
    exact ⟨⟨"http", some ⟨"", none, .name "localhost", some 8000⟩, .segments ["a", ""], none, none⟩,
      ["a", ""], toOption_eq_some.1 (by decide +kernel), rfl, by decide⟩
  · intro agrees
    have tidy := (agrees_iff_tidy accepted' .health).2.1 agrees
    obtain ⟨u, parts, parsed, path, closed⟩ := tidy.closed
    have found :
        (Url.parse (Backend.baseUrl "http://localhost:8000/a//." ++ "/")).toOption.map (·.path) =
          some (.segments ["a", "", ""]) := by
      decide +kernel
    rw [parsed] at found
    have same : u.path = .segments ["a", "", ""] := Option.some.inj found
    rw [path] at same
    cases same
    exact closed (by decide)

end VoiceTicket
