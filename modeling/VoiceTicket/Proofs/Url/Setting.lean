/-
  What setting the parts of a URL leaves of it.

  1. **Data** — a segment is `Written` if it is in the form in which a path holds it: encoded,
     undivided, and no dot segment.  A URL of a well-known scheme is `Canonical` if it is in the
     form in which reading a text leaves it: it has an authority without a port that the scheme
     stands for, and its path is divided into written segments.

  2. **Specification** — `canonical_of_parse`: what has been read is canonical.
     `path_of_written`: a path of written segments is read again as it is.  So no part that is set
     on the way from a server to its channel disturbs another one, and none is refused
     (`Channel.ofServer?_eq`).

  3. **Crux** — encoding leaves alone what is encoded already (`encodeChar_of_mem`) and makes no
     slash (`not_isSlash_of_mem`); so the text of a path falls into just the segments that it was
     put together from, and none of them is taken for a dot segment.
-/
import Mathlib.Data.List.Induction
import VoiceTicket.Proofs.Url.Paths

namespace VoiceTicket.Url

open VoiceTicket.Channel (dropEmptyEnd)

/-! ## Encoding again -/

namespace Percent

variable {c d : Char}

theorem encodeChar_cases (cls : Class) (c : Char) :
    encodeChar cls c = [c] ∨
      encodeChar cls c = (String.utf8EncodeChar c).flatMap encodeByte := by
  rw [encodeChar]
  split
  · exact Or.inr rfl
  · exact Or.inl rfl

/-- The written form of a byte holds a percent sign and two digits, which are encoded as they are
and are no slashes. -/
theorem encodeByte_plain (b : UInt8) (mem : d ∈ encodeByte b) :
    encodeChar path d = [d] ∧ Parser.isSlash .special d = false := by
  have digits : ∀ n < 16, encodeChar path (upperDigit n) = [upperDigit n] ∧
      Parser.isSlash .special (upperDigit n) = false := by decide
  have byte : b.toNat < 256 := b.toNat_lt
  have high : b.toNat / 16 < 16 := by omega
  have low : b.toNat % 16 < 16 := by omega
  simp only [encodeByte, List.mem_cons, List.not_mem_nil, or_false] at mem
  rcases mem with rfl | rfl | rfl
  · decide
  · exact digits _ high
  · exact digits _ low

/-- What is encoded already stays as it is. -/
theorem encodeChar_of_mem (mem : d ∈ encodeChar path c) : encodeChar path d = [d] := by
  rcases encodeChar_cases path c with plain | bytes
  · rw [plain, List.mem_singleton] at mem
    rw [mem]
    exact plain
  · rw [bytes, List.mem_flatMap] at mem
    obtain ⟨b, -, within⟩ := mem
    exact (encodeByte_plain b within).1

/-- Encoding makes no slash. -/
theorem not_isSlash_of_mem (inside : Parser.isSlash .special c = false)
    (mem : d ∈ encodeChar path c) : Parser.isSlash .special d = false := by
  rcases encodeChar_cases path c with plain | bytes
  · rw [plain, List.mem_singleton] at mem
    rw [mem]
    exact inside
  · rw [bytes, List.mem_flatMap] at mem
    obtain ⟨b, -, within⟩ := mem
    exact (encodeByte_plain b within).2

theorem encode_of_plain {cs : List Char} (plain : ∀ c ∈ cs, encodeChar path c = [c]) :
    encode path cs = String.ofList cs := by
  have same : cs.flatMap (encodeChar path) = cs := by
    induction cs with
    | nil => rfl
    | cons c cs ih =>
      rw [List.flatMap_cons, plain c List.mem_cons_self,
        ih fun d mem => plain d (List.mem_cons_of_mem c mem), List.singleton_append]
  rw [encode, same]

/-- What is skipped in a text is encoded in a path. -/
theorem not_isSkipped_of_plain (plain : encodeChar path c = [c]) : Parser.isSkipped c = false := by
  rw [Bool.eq_false_iff]
  intro skipped
  simp only [Parser.isSkipped, Bool.or_eq_true, beq_iff_eq] at skipped
  rcases skipped with (rfl | rfl) | rfl <;> exact absurd plain (by decide)

end Percent

namespace Parser

/-! ## Written segments -/

/-- A segment whose characters are encoded, none of them a slash. -/
def Encoded (s : String) : Prop :=
  ∀ c ∈ s.toList, isSlash .special c = false ∧ Percent.encodeChar Percent.path c = [c]

/-- Character by character, whatever instance there is for a statement about all characters. -/
instance (s : String) : Decidable (Encoded s) :=
  decidable_of_iff (s.toList.all fun c =>
    decide (isSlash .special c = false ∧ Percent.encodeChar Percent.path c = [c])) (by
      simp only [List.all_eq_true, decide_eq_true_eq, Encoded])

/-- A segment in the form in which a path holds it. -/
structure Written (s : String) : Prop where
  encoded : Encoded s
  plain : isDot s = false

theorem written_empty : Written "" := ⟨nofun, by decide⟩

theorem written_channel : ∀ s ∈ ["ws", "status"], Written s := by
  intro s mem
  simp only [List.mem_cons, List.not_mem_nil, or_false] at mem
  rcases mem with rfl | rfl <;> exact ⟨by decide, by decide⟩

theorem encoded_encode {cs : List Char} (inside : ∀ c ∈ cs, isSlash .special c = false) :
    Encoded (Percent.encode Percent.path cs) := by
  intro d mem
  rw [Percent.encode, String.toList_ofList, List.mem_flatMap] at mem
  obtain ⟨c, within, mem⟩ := mem
  exact ⟨Percent.not_isSlash_of_mem (inside c within) mem, Percent.encodeChar_of_mem mem⟩

/-- No part of a text that is cut at its slashes holds one. -/
theorem not_isSlash_of_mem_cut {kind : SchemeKind} {cs part : List Char} (mem : part ∈ cut kind cs) :
    ∀ c ∈ part, isSlash kind c = false := by
  induction cs generalizing part with
  | nil =>
    rw [cut, List.mem_singleton] at mem
    rw [mem]
    exact List.forall_mem_nil _
  | cons c cs ih =>
    obtain ⟨first, parts, cut'⟩ := exists_cut kind cs
    rw [cut, cut'] at mem
    rw [cut'] at ih
    dsimp only at mem
    split at mem
    · rcases List.mem_cons.1 mem with rfl | behind
      · exact List.forall_mem_nil _
      · exact ih behind
    · next inner =>
      rcases List.mem_cons.1 mem with rfl | behind
      · intro d within
        rcases List.mem_cons.1 within with rfl | within
        · exact Bool.eq_false_iff.2 inner
        · exact ih List.mem_cons_self d within
      · exact ih (List.mem_cons_of_mem first behind)

theorem encoded_segmentsOf {cs : List Char} : ∀ s ∈ segmentsOf cs, Encoded s := by
  intro s mem
  rw [segmentsOf, List.mem_map] at mem
  obtain ⟨part, within, rfl⟩ := mem
  exact encoded_encode (not_isSlash_of_mem_cut within)

theorem written_push {up : List String} {s : String} (all : ∀ t ∈ up, Written t)
    (encoded : Encoded s) : ∀ t ∈ push up s, Written t := by
  intro t mem
  by_cases dot : isDot s = true
  · refine all t ?_
    rw [push] at mem
    split at mem
    · cases up with
      | nil => exact mem
      | cons above up =>
        rw [climb] at mem
        split at mem
        · exact mem
        · exact List.mem_cons_of_mem above mem
    · split at mem
      · exact mem
      · -- The segment stands for itself, so it is no dot segment.
        next double single => simp [isDot, double, single] at dot
  · rw [push_of_not_isDot (Bool.eq_false_iff.2 dot)] at mem
    rcases List.mem_cons.1 mem with rfl | above
    · exact ⟨encoded, Bool.eq_false_iff.2 dot⟩
    · exact all t above

/-- **Resolving leaves written segments.** -/
theorem written_resolve {up segments : List String} (all : ∀ t ∈ up, Written t)
    (encoded : ∀ s ∈ segments, Encoded s) : ∀ t ∈ resolve up segments, Written t := by
  induction segments generalizing up with
  | nil =>
    intro t mem
    rw [resolve, List.mem_reverse] at mem
    exact all t mem
  | cons s rest ih =>
    have first := written_push all (encoded s List.mem_cons_self)
    cases rest with
    | nil =>
      intro t mem
      rw [resolve_singleton, List.mem_append, List.mem_reverse] at mem
      rcases mem with pushed | last
      · exact first t pushed
      · split at last
        · rw [List.mem_singleton.1 last]
          exact written_empty
        · cases last
    | cons next others =>
      have step := resolve_append up [s] (List.cons_ne_nil next others)
      rw [List.singleton_append, List.foldl_cons, List.foldl_nil] at step
      rw [step]
      exact ih first fun t mem => encoded t (List.mem_cons_of_mem s mem)

/-- A path behind an authority is divided into written segments. -/
theorem exists_written (cs : List Char) :
    ∃ parts, pathAfterAuthority .special cs = .segments parts ∧ ∀ s ∈ parts, Written s :=
  ⟨_, rfl, written_resolve nofun encoded_segmentsOf⟩

/-! ## Reading a path again -/

theorem cut_of_inner {kind : SchemeKind} {cs : List Char}
    (inside : ∀ c ∈ cs, isSlash kind c = false) : cut kind cs = [cs] := by
  obtain ⟨front, last, start, whole⟩ := cut_append_of_inner [] inside
  have single : [] = front ∧ [] = last := by
    rw [cut, ← List.nil_append [[]]] at start
    exact ⟨(List.append_inj' start rfl).1, List.singleton_inj.1 (List.append_inj' start rfl).2⟩
  rw [← single.1, ← single.2] at whole
  exact whole

theorem segmentsOf_of_encoded {s : String} (encoded : Encoded s) : segmentsOf s.toList = [s] := by
  rw [segmentsOf, cut_of_inner fun c mem => (encoded c mem).1, List.map_singleton,
    Percent.encode_of_plain fun c mem => (encoded c mem).2, String.ofList_toList]

theorem toList_text (parts : List String) :
    (Path.segments parts).text.toList = parts.flatMap ('/' :: ·.toList) := by
  induction parts with
  | nil => rfl
  | cons s parts ih =>
    show (String.join (("/" ++ s) :: parts.map ("/" ++ ·))).toList = _
    rw [String.join_cons, String.toList_append, String.toList_append, List.flatMap_cons, ← ih]
    rfl

/-- The text of a path falls into the segments that it was put together from. -/
theorem segmentsOf_text {s : String} {parts : List String} (encoded : ∀ t ∈ s :: parts, Encoded t) :
    segmentsOf (s.toList ++ (Path.segments parts).text.toList) = s :: parts := by
  induction parts generalizing s with
  | nil =>
    have none' : (Path.segments []).text.toList = [] := toList_text []
    rw [none', List.append_nil]
    exact segmentsOf_of_encoded (encoded s List.mem_cons_self)
  | cons t parts ih =>
    have others := ih fun u mem => encoded u (List.mem_cons_of_mem s mem)
    rw [toList_text, List.flatMap_cons, ← toList_text, List.cons_append, segmentsOf_append,
      segmentsOf_of_encoded (encoded s List.mem_cons_self), others, List.singleton_append]

theorem counted_of_written {parts : List String} (written : ∀ s ∈ parts, Written s) :
    counted (Path.segments parts).text = (Path.segments parts).text.toList := by
  refine List.filter_eq_self.2 fun c mem => ?_
  rw [toList_text, List.mem_flatMap] at mem
  obtain ⟨s, within, mem⟩ := mem
  rcases List.mem_cons.1 mem with rfl | inside
  · rfl
  · rw [Percent.not_isSkipped_of_plain ((written s within).encoded c inside).2]
    rfl

/-- **A path of written segments is read again as it is.** -/
theorem path_of_written {parts : List String} (some : parts ≠ [])
    (written : ∀ s ∈ parts, Written s) :
    pathAfterAuthority .special (counted (Path.segments parts).text) = .segments parts := by
  obtain ⟨s, others, rfl⟩ := List.exists_cons_of_ne_nil some
  have begins : dropSlash .special (Path.segments (s :: others)).text.toList =
      s.toList ++ (Path.segments others).text.toList := by
    rw [toList_text, List.flatMap_cons, ← toList_text]
    rfl
  have encoded : ∀ t ∈ s :: others, Encoded t := fun t mem => (written t mem).encoded
  rw [counted_of_written written]
  show Path.segments (resolve [] (segmentsOf (dropSlash .special _))) = _
  rw [begins, segmentsOf_text encoded, resolve_of_plain fun t mem => (written t mem).plain]
  rfl

/-! ## Slashes at the end of a path -/

/-- The slashes at the end of a path are its empty segments there. -/
theorem trimEndSlashes_text {parts : List String} (encoded : ∀ s ∈ parts, Encoded s) :
    Text.trimEndSlashes (Path.segments parts).text = (Path.segments (dropEmptyEnd parts)).text := by
  rw [← String.toList_inj, Text.trimEndSlashes, Text.toList_trimEnd]
  induction parts using List.reverseRecOn with
  | nil => rfl
  | append_singleton front s ih =>
    have last : (Path.segments [s]).text.toList = '/' :: s.toList := by
      rw [toList_text, List.flatMap_cons, List.flatMap_nil, List.append_nil]
    have shorter := ih fun t mem => encoded t (List.mem_append_left [s] mem)
    by_cases empty : s.isEmpty = true
    · have none' : ∀ t ∈ [s], t.isEmpty = true := fun t mem => List.mem_singleton.1 mem ▸ empty
      rw [dropEmptyEnd_append none', ← shorter, text_append, String.toList_append, last,
        String.isEmpty_iff.1 empty]
      exact Text.dropEndWhile_append_of_all (by simp)
    · have closed : ¬ [""] <:+ front ++ [s] := by
        rintro ⟨start, same⟩
        have end' : [""] = [s] := (List.append_inj' same rfl).2
        rw [← List.singleton_inj.1 end'] at empty
        exact empty rfl
      obtain ⟨c, end'⟩ : ∃ c, s.toList.getLast? = some c := by
        refine Option.isSome_iff_exists.1 (List.getLast?_isSome.2 fun none' => empty ?_)
        rw [String.isEmpty_iff, ← String.toList_inj, none']
        rfl
      have inner := ((encoded s (List.mem_append_right front (List.mem_singleton_self s))) c
        (List.mem_of_getLast? end')).1
      have solid : (c == '/') = false := by
        rw [isSlash, Bool.or_eq_false_iff] at inner
        exact inner.1
      have slashed : ('/' :: s.toList).getLast? = some c := by
        rw [List.getLast?_cons, end', Option.getD_some]
      rw [dropEmptyEnd_of_closed closed, text_append, String.toList_append, last]
      exact Text.dropEndWhile_append _ slashed solid

theorem mem_of_mem_dropEmptyEnd {parts : List String} {s : String} (mem : s ∈ dropEmptyEnd parts) :
    s ∈ parts := by
  rw [dropEmptyEnd, List.mem_reverse] at mem
  exact List.mem_reverse.1 (List.dropWhile_subset _ mem)

/-! ## Canonical URLs -/

/-- The port that a scheme stands for is not held. -/
theorem port_ne {scheme : String} {digits : List Char} {n : Nat}
    (read : port scheme digits = .ok (some n)) : defaultPort? scheme ≠ some n := by
  rw [port] at read
  split at read
  · cases read
  · split at read
    · cases read
    · split at read
      · cases read
      · next other =>
        cases read
        intro same
        simp [same] at other

theorem hostPort_ne {scheme : String} {cs : List Char} {host : Host} {n : Nat}
    (read : hostPort scheme .special cs = .ok (host, some n)) : defaultPort? scheme ≠ some n := by
  rw [hostPort_special] at read
  split at read
  · cases read
  · cases found : specialHost (hostSpan false cs).1 with
    | error fault =>
      rw [found] at read
      cases read
    | ok name =>
      rw [found] at read
      dsimp only [Except.bind] at read
      split at read
      · next digits behind =>
        cases given : port scheme digits with
        | error fault =>
          rw [given] at read
          cases read
        | ok p =>
          rw [given] at read
          cases read
          exact port_ne given
      · cases read

theorem authority_ne {scheme : String} {cs : List Char} {a : Authority}
    (read : authority scheme .special false cs = .ok a) {n : Nat} (port : a.port = some n) :
    defaultPort? scheme ≠ some n := by
  rw [authority_special] at read
  split at read
  · cases found : hostPort scheme .special cs with
    | error fault =>
      rw [found] at read
      cases read
    | ok pair =>
      rw [found] at read
      cases read
      have bound : pair = (pair.1, some n) := congrArg (pair.1, ·) port
      exact hostPort_ne (found.trans (congrArg Except.ok bound))
  · next user rest split =>
    cases found : hostPort scheme .special rest with
    | error fault =>
      rw [found] at read
      cases read
    | ok pair =>
      rw [found] at read
      dsimp only [Except.bind] at read
      split at read
      · cases read
      · cases read
        have bound : pair = (pair.1, some n) := congrArg (pair.1, ·) port
        exact hostPort_ne (found.trans (congrArg Except.ok bound))

end Parser

/-- A URL of a well-known scheme in the form in which reading a text leaves it. -/
structure Canonical (u : Url) : Prop where
  authority : ∃ a, u.authority = some a ∧ ∀ n, a.port = some n → defaultPort? u.scheme ≠ some n
  path : ∃ parts, u.path = .segments parts ∧ ∀ s ∈ parts, Parser.Written s

/-- **What has been read is canonical.** -/
theorem canonical_of_parse {s : String} {u : Url} (read : parse s = .ok u)
    (special : SchemeKind.of u.scheme = .special) : Canonical u := by
  rw [Parser.parse_eq] at read
  obtain ⟨front, host, rest, a, -, -, -, -, -, found, same⟩ := Parser.exists_leads read special
  rw [same]
  exact ⟨⟨a, rfl, fun n port => Parser.authority_ne found port⟩, Parser.exists_written _⟩

end VoiceTicket.Url

/-! ## From a server to its channel -/

namespace VoiceTicket.Channel

open Url.Parser (Written)

variable {u : Url} {scheme : String}

/-- The scheme of a channel is well known, like that of its server, and stands for the same port. -/
theorem of_scheme? {scheme channel : String} (known : scheme? scheme = some channel) :
    Url.SchemeKind.of scheme = .special ∧ Url.SchemeKind.of channel = .special ∧
      Url.defaultPort? channel = Url.defaultPort? scheme := by
  unfold scheme? at known
  split at known
  · cases known
    exact ⟨by decide, by decide, rfl⟩
  · cases known
    exact ⟨by decide, by decide, rfl⟩
  · cases known
    exact ⟨by decide, by decide, rfl⟩
  · cases known
    exact ⟨by decide, by decide, rfl⟩
  · cases known

/-- The scheme of a channel is read as it is. -/
theorem read_scheme {scheme channel : String} (known : scheme? scheme = some channel) :
    Url.Parser.scheme? (channel.toList ++ [':']) = some (channel, []) := by
  unfold scheme? at known
  split at known <;> cases known <;> decide

/-- The scheme of the channel is not refused, and changes nothing else. -/
theorem setScheme?_of_canonical (canonical : u.Canonical) (known : scheme? u.scheme = some scheme) :
    u.setScheme? scheme = some { u with scheme } := by
  obtain ⟨special, special', ports⟩ := of_scheme? known
  obtain ⟨a, held, apart⟩ := canonical.authority
  have kept : a.under scheme = a := by
    rw [Url.Authority.under]
    split
    · next same =>
      cases port : a.port with
      | none => rw [← port]
      | some n =>
        rw [port, ports] at same
        exact absurd same.symm (apart n port)
    · rfl
  have admitted : u.admits scheme = true := by
    rw [Url.admits, special, special', held]
    rfl
  rw [Url.setScheme?, read_scheme known]
  simp only [admitted, if_true, held, Option.map_some, kept]

/-- The text of the path of a channel. -/
theorem text_pathBelow (canonical : u.Canonical) :
    (pathBelow u.path).text = Text.trimEndSlashes u.path.text ++ path := by
  obtain ⟨parts, divided, written⟩ := canonical.path
  have last : (Url.Path.segments ["ws", "status"]).text = path := by decide
  rw [divided, Url.Parser.trimEndSlashes_text fun s mem => (written s mem).encoded, ← last,
    ← Url.Parser.text_append]
  rfl

/-- The path of a channel is read as it is. -/
theorem setPath_of_canonical (canonical : u.Canonical) (known : scheme? u.scheme = some scheme) :
    ({ u with scheme } : Url).setPath (Text.trimEndSlashes u.path.text ++ path) =
      { u with scheme, path := pathBelow u.path } := by
  have special := (of_scheme? known).2.1
  have text := text_pathBelow canonical
  obtain ⟨parts, divided, written⟩ := canonical.path
  have below : pathBelow u.path = .segments (dropEmptyEnd parts ++ ["ws", "status"]) := by
    rw [divided]
    rfl
  have all : ∀ s ∈ dropEmptyEnd parts ++ ["ws", "status"], Written s := by
    intro s mem
    rcases List.mem_append.1 mem with front | last
    · exact written s (Url.Parser.mem_of_mem_dropEmptyEnd front)
    · exact Url.Parser.written_channel s last
  have some : dropEmptyEnd parts ++ ["ws", "status"] ≠ [] :=
    List.append_ne_nil_of_right_ne_nil _ (List.cons_ne_nil _ _)
  rw [Url.setPath, special, ← text, below]
  simp only [divided, Url.Parser.path_of_written some all]

/-- **The channel of a server, part by part**: no part that is set is refused or disturbs another
one. -/
theorem ofServer?_eq (canonical : u.Canonical) (known : scheme? u.scheme = some scheme) :
    ofServer? u = some (ofServer u scheme) := by
  obtain ⟨parts, divided, -⟩ := canonical.path
  rw [ofServer?, known, Option.bind_some, setScheme?_of_canonical canonical known, Option.map_some,
    setPath_of_canonical canonical known, ofServer, divided]
  rfl

theorem ofServer?_of_unknown (unknown : scheme? u.scheme = none) : ofServer? u = none := by
  rw [ofServer?, unknown]
  rfl

/-- **The status channel of a base URL, part by part.** -/
theorem url_eq (base : String) :
    url base =
      match Url.parse (Text.trim base) with
      | .error reason => .error (.invalidUrl (Text.trim base) reason)
      | .ok u =>
        match scheme? u.scheme with
        | none => .error (.unsupportedScheme u.scheme)
        | some scheme => .ok (ofServer u scheme) := by
  rw [url]
  cases read : Url.parse (Text.trim base) with
  | error reason => rfl
  | ok u =>
    dsimp only
    cases known : scheme? u.scheme with
    | none => rw [ofServer?_of_unknown known]
    | some scheme =>
      have canonical := Url.canonical_of_parse read (of_scheme? known).1
      rw [ofServer?_eq canonical known]

end VoiceTicket.Channel
