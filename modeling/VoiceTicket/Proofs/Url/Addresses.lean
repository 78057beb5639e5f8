/-
  Where calls go.

  1. **Data** — `Backend.paths` are the paths that are called, and `Backend.address` is the text of
     the URL of a path at a server.  `Url.Below channel front path u`: the URL leads to the server
     of the channel, and there to the path below another one.

  2. **Specification** — `Backend.url_eq`: an endpoint is called at the address of its path.  Two
     paths have two addresses (`Backend.address_inj`); and where neither a query nor a fragment
     begins in the server URL, what is requested at them is the paths below one and the same path
     (`exists_below`), so that no request for one is a request for another (`path_ne_of_target`).

  3. **Crux** — what calls have behind the authority of the server does not depend on the path that
     is appended (`Apart.exists_behind`), and the path goes behind it as it is.
-/
import VoiceTicket.Proofs.Url.Agreement

namespace VoiceTicket

open Url.Parser

/-! ## Addresses -/

namespace Backend

/-- The text of the URL of a path at a server: the server URL, without the blanks around it and the
slashes at its end, and the path. -/
def address (server path : String) : String := Text.trimEndSlashes (Text.trim server) ++ path

/-- The paths that are called. -/
def paths : List String :=
  ["/api/pipeline/run/audio", "/api/pipeline/run", "/api/pipeline/clarify", "/api/transcribe",
    "/health"]

variable {server : String} {p q : String}

/-- **An endpoint is called at the address of its path.** -/
theorem url_eq (server : String) (e : Endpoint) : url server e = address server e.path := rfl

theorem path_mem_paths (e : Endpoint) : e.path ∈ paths := by
  cases e <;> decide

theorem exists_endpoint (mem : p ∈ paths) : ∃ e : Endpoint, e.path = p := by
  have all : paths = [Endpoint.audio, .text, .clarify, .transcribe, .health].map Endpoint.path :=
    rfl
  rw [all] at mem
  obtain ⟨e, -, same⟩ := List.mem_map.1 mem
  exact ⟨e, same⟩

/-- **Two paths have two addresses.** -/
theorem address_inj : address server p = address server q ↔ p = q := String.append_right_inj _

end Backend

/-! ## What is requested there -/

namespace Http

variable {text : String} {u : Url}

/-- A request is made for a URL without user name and password. -/
theorem exists_parse_of_target (made : target text = .ok u) :
    ∃ v, Url.parse text = .ok v ∧ u = withoutUser v := by
  rw [target] at made
  split at made
  · cases made
  · next v parsed =>
    dsimp only at made
    split at made
    · cases made
      exact ⟨v, parsed, rfl⟩
    · cases made

/-- They are all that a URL loses. -/
theorem withoutUser_cases (u : Url) : withoutUser u = u ∨ ∃ a, u.authority = some a ∧
    withoutUser u = { u with authority := some { a with username := "", password := none } } := by
  rw [withoutUser]
  split
  · next a found =>
    split
    · exact Or.inr ⟨a, found, rfl⟩
    · exact Or.inl rfl
  · exact Or.inl rfl

end Http

/-- A URL leads to the server of a channel, and there to a path below another one. -/
structure Url.Below (channel : Url) (front path : String) (u : Url) : Prop where
  host : u.host? = channel.host?
  port : u.port? = channel.port?
  path : u.path.text = front ++ path
  query : u.query = none
  fragment : u.fragment = none

/-- It makes no difference whether user name and password are in the URL. -/
theorem Url.Below.withoutUser {channel u : Url} {front path : String}
    (below : Url.Below channel front path u) :
    Url.Below channel front path (Http.withoutUser u) := by
  rcases Http.withoutUser_cases u with same | ⟨a, found, same⟩
  · rw [same]
    exact below
  · have host : (Http.withoutUser u).host? = u.host? := by rw [same, Url.host?, Url.host?, found]
    have port : (Http.withoutUser u).port? = u.port? := by rw [same, Url.port?, Url.port?, found]; rfl
    refine ⟨host.trans below.host, port.trans below.port, ?_, ?_, ?_⟩
    · rw [same]
      exact below.path
    · rw [same]
      exact below.query
    · rw [same]
      exact below.fragment

variable {server scheme : String} {front host rest : List Char} {a : Url.Authority}

/-- What calls have behind the authority is the same for all of them; or else there is padding right
behind the authority, and no call can be made. -/
theorem Apart.exists_behind (apart : Apart server scheme front host rest a) :
    (∃ behind, Stops behind ∧
      body (Backend.baseUrl server).toList = front ++ (host ++ behind)) ∨
      ∀ path segments, Appendable path segments →
        ∀ u, Url.parse (Backend.baseUrl server ++ path) ≠ .ok u := by
  by_cases solid : ∀ c ∈ (Text.trim server).toList.getLast?, isPadding c = false
  · obtain ⟨shorter, n, longer, whole⟩ := apart.body_of_solid solid
    have all := apart.stops
    rw [longer] at all
    exact Or.inl ⟨shorter, all.of_append, whole⟩
  · obtain ⟨c, last, padding⟩ : ∃ c, (Text.trim server).toList.getLast? = some c ∧
        isPadding c = true := by
      simpa using solid
    obtain ⟨pad, some, all, whole⟩ := apart.body_of_padded last padding
    by_cases bare : rest = []
    · subst bare
      exact Or.inr fun path segments => apart.parse_ne_of_bare some all whole
    · exact Or.inl ⟨rest ++ pad, apart.stops.append bare pad, whole⟩

/-- **What is requested at the paths.**  Where neither a query nor a fragment begins in the server
URL, they are requested of the server that the channel belongs to, below one and the same path. -/
theorem exists_below {channel : Url} (found : Channel.url server = .ok channel)
    (unmarked : Unmarked server.toList) :
    ∃ front, ∀ path ∈ Backend.paths, ∀ u, Http.target (Backend.address server path) = .ok u →
      Url.Below channel front path u := by
  obtain ⟨scheme, ws, front, host, rest, a, known, apart⟩ := exists_apart_iff.1 ⟨channel, found⟩
  obtain rfl : Channel.ofServer (followedBy scheme rest a) ws = channel := by
    rw [apart.channel known] at found
    exact Except.ok.inj found
  rcases apart.exists_behind with ⟨behind, stops, whole⟩ | none'
  · have plain := (apart.unmarked_iff whole).1 unmarked
    refine ⟨(Url.Path.segments (upTo behind)).text, fun path mem u made => ?_⟩
    obtain ⟨e, rfl⟩ := Backend.exists_endpoint mem
    obtain ⟨v, parsed, rfl⟩ := Http.exists_parse_of_target made
    have call := parse_call apart.leads apart.inner stops whole e.appendable
    rw [apart.read] at call
    obtain rfl : v = followedBy scheme (behind ++ e.path.toList) a :=
      Except.ok.inj (parsed.symm.trans call)
    obtain ⟨query, fragment⟩ := unmarked_followedBy scheme a plain e
    refine Url.Below.withoutUser ⟨rfl, ?_, text_path_followedBy plain stops e, query, fragment⟩
    show (a.port).or (Url.defaultPort? scheme) = (a.port).or (Url.defaultPort? ws)
    rw [(Channel.of_scheme? known).2.2]
  · refine ⟨"", fun path mem u made => ?_⟩
    obtain ⟨e, rfl⟩ := Backend.exists_endpoint mem
    obtain ⟨v, parsed, -⟩ := Http.exists_parse_of_target made
    exact absurd parsed (none' e.path e.segments e.appendable v)

/-- **No request for a path is one for another.** -/
theorem path_ne_of_target {channel : Url} (found : Channel.url server = .ok channel)
    (unmarked : Unmarked server.toList) {p q : String} (mem : p ∈ Backend.paths)
    (mem' : q ∈ Backend.paths) (other : p ≠ q) {u v : Url}
    (made : Http.target (Backend.address server p) = .ok u)
    (made' : Http.target (Backend.address server q) = .ok v) : u.path ≠ v.path := by
  obtain ⟨front, below⟩ := exists_below found unmarked
  have path := (below p mem u made).path
  have path' := (below q mem' v made').path
  intro same
  rw [same, path', String.append_right_inj] at path
  exact other path.symm

end VoiceTicket
