/-
  What the status channel of a base URL is.

  1. **Data** — a URL `Serves` another one as its channel if it has the scheme of a channel, the
     authority of the other, its path without the slashes at its end and then `/ws/status`, and
     nothing behind that.  `Marked behind` says that a text begins a query or a fragment.

  2. **Specification** — `url_laws`: every base URL of one of the four schemes has a channel that
     serves it, and no other one has any.  Blanks around a base URL make no difference, and neither
     does a query or a fragment, whatever stands in it.

  3. **Crux** — a path ends where the first mark stands (`Url.Parser.path_eq_takeWhile`), and no mark
     stands in front of it; so what is behind a mark is behind all that the channel is read off
     (`onClean_append`).
-/
import Mathlib.Data.List.TakeWhile
import VoiceTicket.Proofs.Url.Bases

namespace VoiceTicket

open Url.Parser

/-! ## Marks -/

/-- The character begins a query or a fragment. -/
def Url.Parser.isMark (c : Char) : Bool := c == '?' || c == '#'

theorem Url.Parser.isMark_iff {c : Char} : isMark c = true ↔ c = '?' ∨ c = '#' := by
  rw [isMark, Bool.or_eq_true, beq_iff_eq, beq_iff_eq]

/-- A path ends where a query or a fragment begins. -/
theorem Url.Parser.path_eq_takeWhile (cs : List Char) :
    (Tail.of cs).path = cs.takeWhile (!isMark ·) := by
  show (splitFirst '?' (splitFirst '#' cs).1).1 = _
  rw [splitFirst_fst, splitFirst_fst, List.takeWhile_takeWhile]
  congr 1
  funext c
  by_cases query : c = '?' <;> by_cases fragment : c = '#' <;> simp [isMark, query, fragment]

/-- What is behind a mark is no part of the path. -/
theorem Url.Parser.path_append_mark {mark : Char} (marks : isMark mark = true)
    (cs more : List Char) : (Tail.of (cs ++ mark :: more)).path = (Tail.of cs).path := by
  have ends : (mark :: more).takeWhile (!isMark ·) = [] :=
    List.takeWhile_cons_of_neg (by rw [marks]; decide)
  rw [path_eq_takeWhile, path_eq_takeWhile, List.takeWhile_append, ends, List.append_nil]
  split
  · next whole => exact ((List.takeWhile_prefix _).eq_of_length whole).symm
  · rfl

theorem Url.Parser.endsAuthority_of_isMark {c : Char} (marks : isMark c = true) :
    endsAuthority .special c = true := by
  rcases isMark_iff.1 marks with rfl | rfl <;> decide

/-- No mark stands in front of a path. -/
theorem Url.Parser.not_mem_of_unmarked {mark : Char} (marks : isMark mark = true) {cs : List Char}
    (unmarked : Unmarked cs) : mark ∉ cs := by
  intro mem
  rcases isMark_iff.1 marks with rfl | rfl
  · exact (unmarked _ mem).1 rfl
  · exact (unmarked _ mem).2 rfl

namespace Channel

variable {base : String} {u channel : Url}

/-! ## The parts of a channel -/

/-- The schemes that a base URL may have. -/
def schemes : List String := ["http", "ws", "https", "wss"]

/-- A URL is the channel of a server. -/
structure Serves (u channel : Url) : Prop where
  scheme : (u.scheme = "http" ∨ u.scheme = "ws") ∧ channel.scheme = "ws" ∨
    (u.scheme = "https" ∨ u.scheme = "wss") ∧ channel.scheme = "wss"
  authority : channel.authority = u.authority
  path : channel.path.text = Text.trimEndSlashes u.path.text ++ "/ws/status"
  query : channel.query = none
  fragment : channel.fragment = none

theorem scheme?_eq_some_iff {scheme ws : String} :
    scheme? scheme = some ws ↔
      (scheme = "http" ∨ scheme = "ws") ∧ ws = "ws" ∨
        (scheme = "https" ∨ scheme = "wss") ∧ ws = "wss" := by
  constructor
  · intro known
    unfold scheme? at known
    split at known <;> cases known <;> simp
  · rintro (⟨rfl | rfl, rfl⟩ | ⟨rfl | rfl, rfl⟩) <;> rfl

theorem scheme?_eq_none_iff {scheme : String} : scheme? scheme = none ↔ scheme ∉ schemes := by
  constructor
  · intro unknown mem
    simp only [schemes, List.mem_cons, List.not_mem_nil, or_false] at mem
    rcases mem with rfl | rfl | rfl | rfl <;> cases unknown
  · intro outside
    cases known : scheme? scheme with
    | none => rfl
    | some ws =>
      refine absurd ?_ outside
      rcases scheme?_eq_some_iff.1 known with ⟨rfl | rfl, -⟩ | ⟨rfl | rfl, -⟩ <;> decide

theorem serves_ofServer {scheme : String} (canonical : u.Canonical)
    (known : scheme? u.scheme = some scheme) : Serves u (ofServer u scheme) :=
  ⟨scheme?_eq_some_iff.1 known, rfl, text_pathBelow canonical, rfl, rfl⟩

/-- A base URL of one of the four schemes has a channel that serves it. -/
theorem url_of_known (read : Url.parse (Text.trim base) = .ok u) (known : u.scheme ∈ schemes) :
    ∃ channel, url base = .ok channel ∧ Serves u channel := by
  cases found : scheme? u.scheme with
  | none => exact absurd known (scheme?_eq_none_iff.1 found)
  | some scheme =>
    have canonical := Url.canonical_of_parse read (of_scheme? found).1
    refine ⟨ofServer u scheme, ?_, serves_ofServer canonical found⟩
    rw [url_eq, read]
    simp only [found]

theorem url_of_unknown (read : Url.parse (Text.trim base) = .ok u) (unknown : u.scheme ∉ schemes) :
    url base = .error (.unsupportedScheme u.scheme) := by
  rw [url_eq, read]
  simp only [scheme?_eq_none_iff.2 unknown]

theorem url_of_unread {reason : Url.Fault} (unread : Url.parse (Text.trim base) = .error reason) :
    url base = .error (.invalidUrl (Text.trim base) reason) := by
  rw [url_eq, unread]

/-! ## What makes no difference -/

/-- The channel of a base URL, from the characters of it that count. -/
def onClean (cs : List Char) : Option Url :=
  (ofClean cs).toOption.bind fun u => (scheme? u.scheme).map (ofServer u)

theorem toOption_url (base : String) :
    (url base).toOption = onClean (clean (Text.trim base)) := by
  rw [url_eq, parse_eq, onClean]
  cases ofClean (clean (Text.trim base)) with
  | error reason => rfl
  | ok u =>
    show _ = (scheme? u.scheme).map (ofServer u)
    cases known : scheme? u.scheme <;> simp only [known] <;> rfl

/-- The channel is read off the path up to the first mark. -/
theorem ofServer_followedBy_mark {mark : Char} (marks : isMark mark = true)
    (rest more : List Char) (scheme ws : String) (a : Url.Authority) :
    ofServer (followedBy scheme (rest ++ mark :: more) a) ws =
      ofServer (followedBy scheme rest a) ws := by
  show Url.mk ws (some a)
      (pathBelow (pathAfterAuthority .special (Tail.of (rest ++ mark :: more)).path)) none none = _
  rw [path_append_mark marks]
  rfl

theorem onClean_eq_some_iff {cs : List Char} :
    onClean cs = some channel ↔
      ∃ scheme ws front host rest a, scheme? scheme = some ws ∧ cs = front ++ (host ++ rest) ∧
        Leads scheme front ∧ Unmarked front ∧ Inner host ∧ Stops rest ∧
        authority scheme .special false host = .ok a ∧
        channel = ofServer (followedBy scheme rest a) ws := by
  constructor
  · intro found
    rw [onClean, Option.bind_eq_some_iff] at found
    obtain ⟨u, read, found⟩ := found
    obtain ⟨ws, known, rfl⟩ := Option.map_eq_some_iff.1 found
    obtain ⟨front, host, rest, a, whole, leads, unmarked, inner, stops, named, same⟩ :=
      exists_leads (toOption_eq_some.1 read) (of_scheme? known).1
    exact ⟨u.scheme, ws, front, host, rest, a, known, whole, leads, unmarked, inner, stops, named,
      congrArg (ofServer · ws) same⟩
  · rintro ⟨scheme, ws, front, host, rest, a, known, rfl, leads, -, inner, stops, named, rfl⟩
    have same : (followedBy scheme rest a).scheme = scheme := rfl
    rw [onClean, leads host rest inner stops, named]
    show (scheme? (followedBy scheme rest a).scheme).map _ = _
    rw [same, known, Option.map_some]

/-- **What is behind a mark makes no difference**, and neither does the mark. -/
theorem onClean_append {mark : Char} (marks : isMark mark = true) (cs more : List Char) :
    onClean (cs ++ mark :: more) = onClean cs := by
  refine Option.ext fun channel => ?_
  show onClean (cs ++ mark :: more) = some channel ↔ onClean cs = some channel
  rw [onClean_eq_some_iff, onClean_eq_some_iff]
  constructor
  · rintro ⟨scheme, ws, front, host, rest, a, known, whole, leads, unmarked, inner, stops, named,
      rfl⟩
    have hosted : Unmarked host := fun c mem => not_mark (inner.inside c mem)
    have apart := not_mem_of_unmarked marks (unmarked_append.2 ⟨unmarked, hosted⟩)
    rw [← List.append_assoc] at whole
    -- No mark is in front of the rest, so the first part of the text reaches as far.
    rcases List.append_eq_append_iff.1 whole with ⟨mid, longer, shorter⟩ | ⟨mid, rfl, behind⟩
    · cases mid with
      | nil =>
        rw [List.append_nil] at longer
        rw [List.nil_append] at shorter
        refine ⟨scheme, ws, front, host, [], a, known, ?_, leads, unmarked, inner, nofun, named, ?_⟩
        · rw [List.append_nil, longer]
        · rw [← shorter]
          exact ofServer_followedBy_mark marks [] more scheme ws a
      | cons d mid =>
        cases shorter
        exact absurd (longer ▸ List.mem_append_right cs List.mem_cons_self) apart
    · rw [behind] at stops
      refine ⟨scheme, ws, front, host, mid, a, known, List.append_assoc _ _ _, leads, unmarked,
        inner, stops.of_append, named, ?_⟩
      rw [behind]
      exact ofServer_followedBy_mark marks mid more scheme ws a
  · rintro ⟨scheme, ws, front, host, rest, a, known, rfl, leads, unmarked, inner, stops, named, rfl⟩
    have stops' : Stops (rest ++ mark :: more) := by
      intro c mem
      cases rest with
      | nil =>
        cases mem
        exact endsAuthority_of_isMark marks
      | cons d rest => exact stops c mem
    refine ⟨scheme, ws, front, host, rest ++ mark :: more, a, known, ?_, leads, unmarked, inner,
      stops', named, ?_⟩
    · rw [List.append_assoc, List.append_assoc]
    · exact (ofServer_followedBy_mark marks rest more scheme ws a).symm

/-! ## Queries and fragments -/

/-- A text begins with a mark. -/
def Marked (behind : String) : Prop := ∃ mark more, behind.toList = mark :: more ∧ isMark mark = true

/-- What counts of a text in front of a mark does not depend on what is behind it. -/
theorem exists_clean_append {behind : String} (marked : Marked behind) (base : String) :
    ∃ mark more, isMark mark = true ∧ clean (Text.trim (base ++ behind)) =
      body (base.toList.dropWhile Text.isBlank) ++ mark :: more := by
  obtain ⟨mark, more, begins, marks⟩ := marked
  have ⟨visible, solid⟩ : Text.isBlank mark = false ∧ isPadding mark = false := by
    rcases isMark_iff.1 marks with rfl | rfl <;> decide
  have front : (base.toList ++ mark :: more).dropWhile Text.isBlank =
      base.toList.dropWhile Text.isBlank ++ mark :: more := by
    rw [List.dropWhile_append]
    split
    · next gone =>
      rw [List.isEmpty_iff.1 gone, List.nil_append]
      exact List.dropWhile_cons_of_neg (Bool.eq_false_iff.1 visible)
    · rfl
  have head : ∀ c ∈ (mark :: Text.dropEndWhile Text.isBlank more).head?, isPadding c = false := by
    intro c mem
    cases mem
    exact solid
  have counts : (mark :: Text.dropEndWhile Text.isBlank more).filter (!isSkipped ·) =
      mark :: (Text.dropEndWhile Text.isBlank more).filter (!isSkipped ·) :=
    List.filter_cons_of_pos (not_isSkipped solid)
  refine ⟨mark, Text.dropEndWhile isPadding
    ((Text.dropEndWhile Text.isBlank more).filter (!isSkipped ·)), marks, ?_⟩
  rw [clean_trim, String.toList_append, begins, Text.trimChars, front,
    Text.dropEndWhile_append_cons visible, body_append_of_head head, counts,
    Text.dropEndWhile_append_cons solid]

/-- A text that ends in nothing of the margin counts up to its end. -/
theorem clean_of_solid (solid : ∀ c ∈ base.toList.getLast?, Url.isMargin c = false) :
    clean (Text.trim base) = body (base.toList.dropWhile Text.isBlank) := by
  have ends : ∀ c ∈ (base.toList.dropWhile Text.isBlank).getLast?, Url.isMargin c = false := by
    intro c last
    refine solid c ?_
    rw [← List.takeWhile_append_dropWhile (p := Text.isBlank) (l := base.toList),
      List.getLast?_append, last, Option.some_or]
    exact rfl
  have visible : Text.dropEndWhile Text.isBlank (base.toList.dropWhile Text.isBlank) =
      base.toList.dropWhile Text.isBlank :=
    Text.dropEndWhile_eq_self_iff.2 fun c last => (Bool.or_eq_false_iff.1 (ends c last)).1
  rw [clean_trim, Text.trimChars, visible]
  exact dropEndWhile_body fun c last => (Bool.or_eq_false_iff.1 (ends c last)).2

/-- A query or a fragment behind a base URL makes no difference to the channel; it keeps the blanks
in front of it from the end, where they would not count. -/
theorem toOption_url_append {behind : String} (marked : Marked behind) (base : String) :
    (url (base ++ behind)).toOption = onClean (body (base.toList.dropWhile Text.isBlank)) := by
  obtain ⟨mark, more, marks, counted⟩ := exists_clean_append marked base
  rw [toOption_url, counted, onClean_append marks]

/-- **What the status channel of a base URL is.**  Every base URL of one of the four schemes has a
channel, which serves it; any other one has none, for one of two reasons.  Blanks around a base URL
make no difference.  Neither do query and fragment: a base URL that differs from another one in
nothing else has the same channel; and so, whatever it is, has a text with a query or a fragment
behind it, or with none if it does not end in a blank or a control character. -/
theorem url_laws (base : String) :
    (∀ reason, Url.parse (Text.trim base) = .error reason →
      url base = .error (.invalidUrl (Text.trim base) reason)) ∧
    (∀ u, Url.parse (Text.trim base) = .ok u →
      (u.scheme ∈ schemes → ∃ channel, url base = .ok channel ∧ Serves u channel) ∧
      (u.scheme ∉ schemes → url base = .error (.unsupportedScheme u.scheme)) ∧
      ∀ other query fragment,
        Url.parse (Text.trim other) = .ok { u with query, fragment } → url other = url base) ∧
    (∀ front behind : List Char, (∀ c ∈ front, Text.isBlank c = true) →
      (∀ c ∈ behind, Text.isBlank c = true) →
        url (String.ofList (front ++ base.toList ++ behind)) = url base) ∧
    ∀ behind, Marked behind →
      (∀ behind', Marked behind' →
        (url (base ++ behind)).toOption = (url (base ++ behind')).toOption) ∧
      ((∀ c ∈ base.toList.getLast?, Url.isMargin c = false) →
        (url (base ++ behind)).toOption = (url base).toOption) := by
  refine ⟨fun reason => url_of_unread, fun u read => ⟨url_of_known read, url_of_unknown read, ?_⟩,
    fun front behind blank blank' => ?_, fun behind marked => ⟨fun behind' marked' => ?_, ?_⟩⟩
  · intro other query fragment read'
    rw [url_eq, url_eq, read, read']
    rfl
  · rw [url_eq, url_eq, Text.trim_surrounded blank blank']
  · rw [toOption_url_append marked, toOption_url_append marked']
  · intro solid
    rw [toOption_url_append marked, toOption_url, clean_of_solid solid]

/-- A base URL with a dot segment, empty segments at its end, a port and a user, between blanks and
without; and what a query with a path in it, or an empty fragment, does to its channel. -/
theorem url_laws_marked :
    let base := "https://u:p@h:8443/a/../b//"
    (∃ channel, url base = .ok channel ∧
      channel.text = "wss://u:p@h:8443/b/ws/status" ∧
      url "\u3000\thttps://u:p@h:8443/a/../b//\n" = .ok channel ∧
      (url (base ++ "?x/../#y")).toOption = some channel ∧
      (url (base ++ "#")).toOption = some channel) := by
  intro base
  obtain ⟨u, read, known⟩ : ∃ u, Url.parse (Text.trim base) = .ok u ∧ u.scheme ∈ schemes := by
    have parsed : (Url.parse (Text.trim base)).toOption.any (·.scheme ∈ schemes) = true := by
      decide +kernel
    obtain ⟨u, found, known⟩ := (Option.any_eq_true _ _).1 parsed
    exact ⟨u, toOption_eq_some.1 found, of_decide_eq_true known⟩
  obtain ⟨-, parts, blanks, marks⟩ := url_laws base
  obtain ⟨channel, found, -⟩ := (parts u read).1 known
  have solid : ∀ c ∈ base.toList.getLast?, Url.isMargin c = false := by
    have slash : base.toList.getLast? = some '/' := by decide
    intro c last
    rw [slash] at last
    cases last
    decide
  have query : Marked "?x/../#y" := ⟨'?', _, rfl, rfl⟩
  have fragment : Marked "#" := ⟨'#', _, rfl, rfl⟩
  have text : (url base).toOption.map Url.text = some "wss://u:p@h:8443/b/ws/status" := by
    decide +kernel
  have same : (url base).toOption = some channel := by rw [found]; rfl
  rw [same, Option.map_some] at text
  have spelled : String.ofList (['\u3000', '\t'] ++ base.toList ++ ['\n']) =
      "\u3000\thttps://u:p@h:8443/a/../b//\n" := by decide
  have blank := blanks ['\u3000', '\t'] ['\n'] (List.all_eq_true.1 (by decide))
    (List.all_eq_true.1 (by decide))
  rw [spelled, found] at blank
  refine ⟨channel, found, Option.some.inj text, blank, ?_, ?_⟩
  · rw [(marks _ query).2 solid, same]
  · rw [← (marks _ query).1 _ fragment, (marks _ query).2 solid, same]

end Channel

end VoiceTicket
