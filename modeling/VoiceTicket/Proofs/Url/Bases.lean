/-
  Base URLs, taken apart.

  1. **Data** — `Apart base …` says what a base URL falls into: what leads to the authority, the
     authority, and the rest.  `Margin s pad` says that just `pad` goes from the end of a text before
     it is taken apart.

  2. **Specification** — `exists_apart_iff`: a base URL has a status channel exactly if it can be
     taken apart.  `apart_of_serverUrl`: the form in which a base URL is kept can be taken apart
     again, so that it has a channel too.  `exists_apart_kept`: where slashes were lost on the way,
     the two differ in what is behind the authority only.

  3. **Crux** — between the text that was given and the form in which it is kept there are blanks,
     slashes and padding, and an authority ends in neither (`Apart.last`); so whatever goes at the
     end goes behind the authority (`Text.exists_of_append_eq`).
-/
import VoiceTicket.Backend
import VoiceTicket.Proofs.Url.Setting

namespace VoiceTicket

/-! ## What counts of a text -/

open Url.Parser

theorem isBlank_of_isSkipped {c : Char} (skipped : isSkipped c = true) : Text.isBlank c = true := by
  simp only [isSkipped, Bool.or_eq_true, beq_iff_eq] at skipped
  rcases skipped with (rfl | rfl) | rfl <;> decide

/-- The last character of a text counts if it is no blank. -/
theorem getLast?_filter {cs : List Char} {c : Char} (last : cs.getLast? = some c)
    (visible : Text.isBlank c = false) : (cs.filter (!isSkipped ·)).getLast? = some c := by
  obtain ⟨start, rfl⟩ := List.getLast?_eq_some_iff.1 last
  have counts : (!isSkipped c) = true := by
    rw [Bool.not_eq_true', Bool.eq_false_iff]
    intro skipped
    rw [isBlank_of_isSkipped skipped] at visible
    cases visible
  have kept : [c].filter (!isSkipped ·) = [c] := List.filter_cons_of_pos counts
  rw [List.filter_append, kept, List.getLast?_append, List.getLast?_singleton, Option.some_or]

/-- The padding at the front of a text does not reach its end. -/
theorem getLast?_body {cs : List Char} {c : Char} (mem : c ∈ cs) (solid : isPadding c = false) :
    (body cs).getLast? = (cs.filter (!isSkipped ·)).getLast? := by
  rw [body, filter_dropWhile]
  have counted : c ∈ cs.filter (!isSkipped ·) := List.mem_filter.2 ⟨mem, not_isSkipped solid⟩
  generalize cs.filter (!isSkipped ·) = all at counted ⊢
  have left : c ∈ all.dropWhile isPadding := (Text.mem_dropWhile solid).2 counted
  obtain ⟨d, last⟩ : ∃ d, (all.dropWhile isPadding).getLast? = some d :=
    Option.isSome_iff_exists.1 (List.getLast?_isSome.2 (List.ne_nil_of_mem left))
  have whole := congrArg List.getLast? (List.takeWhile_append_dropWhile (p := isPadding) (l := all))
  rw [List.getLast?_append, last, Option.some_or] at whole
  rw [last, whole]

/-- The characters that count, of a text that was trimmed. -/
theorem clean_trim (s : String) :
    Url.Parser.clean (Text.trim s) =
      Text.dropEndWhile isPadding (body (Text.trimChars s.toList)) := by
  rw [clean_eq, Text.toList_trim]

/-- What is not of the margin counts wherever it stands. -/
theorem mem_clean_trim (s : String) {c : Char} (solid : Url.isMargin c = false) :
    c ∈ Url.Parser.clean (Text.trim s) ↔ c ∈ s.toList := by
  obtain ⟨visible, unpadded⟩ := Bool.or_eq_false_iff.1 solid
  rw [clean_trim, Text.mem_dropEndWhile unpadded, mem_body unpadded, Text.mem_trimChars visible]

/-- The slashes at the end of a text all count. -/
theorem exists_slashes (cs : List Char) :
    ∃ n, cs = Text.dropEndWhile (· == '/') cs ++ List.replicate n '/' ∧
      body cs = body (Text.dropEndWhile (· == '/') cs) ++ List.replicate n '/' := by
  obtain ⟨slashes, cut, all⟩ := Text.dropEndWhile_split (· == '/') cs
  have slash : ∀ c ∈ slashes, c = '/' := fun c mem => beq_iff_eq.1 (all c mem)
  have runs : slashes = List.replicate slashes.length '/' := List.eq_replicate_iff.2 ⟨rfl, slash⟩
  have counted : slashes.filter (!isSkipped ·) = slashes := by
    refine List.filter_eq_self.2 fun c mem => ?_
    rw [slash c mem]
    rfl
  have begins : ∀ c ∈ slashes.head?, isPadding c = false := by
    intro c mem
    rw [slash c (List.mem_of_head? mem)]
    rfl
  have both := body_append_of_head begins (Text.dropEndWhile (· == '/') cs)
  rw [← cut, counted] at both
  exact ⟨slashes.length, by rw [← runs]; exact cut, by rw [← runs]; exact both⟩

/-- What is of the margin at the end of a text.  It counts where more follows, and goes with the
blanks and the padding around the text where it is the end. -/
structure Margin (s : String) (pad : List Char) : Prop where
  whole : body s.toList = Url.Parser.clean (Text.trim s) ++ pad
  all : ∀ c ∈ pad, Url.isMargin c = true
  solid : pad = [] → ∀ c ∈ (body s.toList).getLast?, Url.isMargin c = false

/-- There is a margin exactly if the last character that counts is of it. -/
theorem Margin.some_iff {s : String} {pad : List Char} (margin : Margin s pad) {c : Char}
    (mem : c ∈ s.toList) (solid : isPadding c = false) :
    pad ≠ [] ↔ ∃ d, (s.toList.filter (!isSkipped ·)).getLast? = some d ∧ Url.isMargin d = true := by
  rw [← getLast?_body mem solid]
  constructor
  · intro some
    refine ⟨pad.getLast some, ?_, margin.all _ (List.getLast_mem some)⟩
    rw [margin.whole, List.getLast?_append, List.getLast?_eq_some_getLast some, Option.some_or]
  · rintro ⟨d, last, outer⟩ none'
    rw [margin.solid none' d last] at outer
    cases outer

/-- A text with no blank at its front has a margin behind what counts of it. -/
theorem exists_margin {s : String} {c : Char} (mem : c ∈ Text.trimChars s.toList)
    (solid : isPadding c = false)
    (begins : Text.trimChars s.toList = Text.dropEndWhile Text.isBlank s.toList) :
    ∃ pad, Margin s pad := by
  obtain ⟨blanks, whole, all⟩ := Text.dropEndWhile_split Text.isBlank s.toList
  obtain ⟨left, split, padding⟩ :=
    Text.dropEndWhile_split isPadding (body (Text.trimChars s.toList))
  rw [← begins] at whole
  have both := body_append_of_mem mem solid blanks
  rw [← whole] at both
  refine ⟨left ++ blanks.filter (!isSkipped ·), ?_, fun d mem => ?_, fun none' d last => ?_⟩
  · rw [both, clean_trim, ← List.append_assoc, ← split]
  · rcases List.mem_append.1 mem with inside | inside
    · exact Url.isMargin_of_isPadding (padding d inside)
    · rw [Url.isMargin, all d (List.mem_filter.1 inside).1]
      rfl
  · -- Neither blanks nor padding went, so the last character is both that of a text that was
    -- trimmed and that of one without the padding at its end.
    obtain ⟨unpadded, unblanked⟩ := List.append_eq_nil_iff.1 none'
    rw [both, unblanked, List.append_nil] at last
    rw [unpadded, List.append_nil] at split
    have outer : isPadding d = false :=
      Text.getLast?_dropEndWhile isPadding _ d (split ▸ last)
    obtain ⟨e, end'⟩ : ∃ e, (Text.trimChars s.toList).getLast? = some e :=
      Option.isSome_iff_exists.1 (List.getLast?_isSome.2 (List.ne_nil_of_mem mem))
    have visible : Text.isBlank e = false := Text.getLast?_trimChars s.toList e end'
    rw [getLast?_body mem solid, getLast?_filter end' visible] at last
    cases last
    rw [Url.isMargin, visible, outer]
    rfl

/-! ## Taking apart -/

theorem Url.Parser.Stops.of_append {xs ys : List Char} (stops : Stops (xs ++ ys)) : Stops xs :=
  fun c mem => stops c (Text.head?_of_append rfl c mem)

theorem Url.Parser.Stops.append {xs : List Char} (stops : Stops xs) (some : xs ≠ [])
    (ys : List Char) : Stops (xs ++ ys) := by
  obtain ⟨c, cs, rfl⟩ := List.exists_cons_of_ne_nil some
  exact stops

/-- A base URL falls into what leads to the authority, the authority, and the rest. -/
structure Apart (base scheme : String) (front host rest : List Char) (a : Url.Authority) :
    Prop where
  leads : Leads scheme front
  unmarked : Unmarked front
  inner : Inner host
  stops : Stops rest
  read : authority scheme .special false host = .ok a
  clean : clean (Text.trim base) = front ++ (host ++ rest)

namespace Apart

variable {base scheme : String} {front host rest : List Char} {a : Url.Authority}

theorem parse (apart : Apart base scheme front host rest a) :
    Url.parse (Text.trim base) = .ok (followedBy scheme rest a) := by
  rw [parse_eq, apart.clean, apart.leads host rest apart.inner apart.stops, apart.read]
  rfl

theorem channel (apart : Apart base scheme front host rest a) {channel : String}
    (known : Channel.scheme? scheme = some channel) :
    Channel.url base = .ok (Channel.ofServer (followedBy scheme rest a) channel) := by
  have same : (followedBy scheme rest a).scheme = scheme := rfl
  rw [Channel.url_eq, apart.parse]
  simp only [same, known]

/-- An authority ends in no blank, in no padding and in no slash, but in a character of the base
URL. -/
theorem last (apart : Apart base scheme front host rest a) :
    ∃ c, (front ++ host).getLast? = some c ∧ c ∈ Text.trimChars base.toList ∧
      Url.isMargin c = false ∧ (c == '/') = false := by
  obtain ⟨c, last⟩ : ∃ c, host.getLast? = some c :=
    Option.isSome_iff_exists.1 (List.getLast?_isSome.2 apart.inner.some)
  have mem : c ∈ host := List.mem_of_getLast? last
  have solid : Url.isMargin c = false := by
    rw [Bool.eq_false_iff]
    intro margin
    exact authority_of_margin last margin a apart.read
  have unpadded : isPadding c = false := (Bool.or_eq_false_iff.1 solid).2
  have counts : c ∈ Url.Parser.clean (Text.trim base) := by
    rw [apart.clean]
    exact List.mem_append_right front (List.mem_append_left rest mem)
  rw [clean_trim, Text.mem_dropEndWhile unpadded, mem_body unpadded] at counts
  refine ⟨c, ?_, counts, solid, ?_⟩
  · rw [List.getLast?_append, last, Option.some_or]
  · rw [beq_eq_false_iff_ne]
    rintro rfl
    have inside := apart.inner.inside '/' mem
    cases inside

/-- A query or a fragment begins in a base URL exactly if one begins behind its authority, in
whatever counts of it that holds the same characters but for the margin and slashes. -/
theorem unmarked_iff_of_counted (apart : Apart base scheme front host rest a)
    {counted behind : List Char} (whole : counted = front ++ (host ++ behind))
    (same : ∀ c, Url.isMargin c = false → (c == '/') = false → (c ∈ counted ↔ c ∈ base.toList)) :
    Unmarked base.toList ↔ Unmarked behind := by
  have query := same '?' (by decide) (by decide)
  have fragment := same '#' (by decide) (by decide)
  have hosted : Unmarked host := fun c mem => not_mark (apart.inner.inside c mem)
  rw [Url.Parser.unmarked_iff, ← query, ← fragment, ← Url.Parser.unmarked_iff, whole,
    unmarked_append, unmarked_append]
  exact ⟨fun all => all.2.2, fun unmarked => ⟨apart.unmarked, hosted, unmarked⟩⟩

end Apart

/-- A base URL has a channel exactly if it can be taken apart and its scheme is one of the four. -/
theorem exists_apart_iff {base : String} :
    (∃ channel, Channel.url base = .ok channel) ↔
      ∃ scheme channel front host rest a, Channel.scheme? scheme = some channel ∧
        Apart base scheme front host rest a := by
  constructor
  · rintro ⟨channel, found⟩
    rw [Channel.url_eq] at found
    split at found
    · cases found
    · next u parsed =>
      split at found
      · cases found
      · next ws known =>
        rw [parse_eq] at parsed
        obtain ⟨front, host, rest, a, clean, leads, unmarked, inner, stops, read, -⟩ :=
          exists_leads parsed (Channel.of_scheme? known).1
        exact ⟨u.scheme, ws, front, host, rest, a, known,
          ⟨leads, unmarked, inner, stops, read, clean⟩⟩
  · rintro ⟨scheme, channel, front, host, rest, a, known, apart⟩
    exact ⟨_, apart.channel known⟩

/-! ## The form in which a base URL is kept -/

/-- A base URL that is kept is one that has a channel, without the blanks around it and the slashes
at its end. -/
theorem serverUrl_eq_ok_iff {text kept : String} :
    Channel.serverUrl text = .ok kept ↔
      (∃ channel, Channel.url text = .ok channel) ∧
        kept.toList = Text.dropEndWhile (· == '/') (Text.trimChars text.toList) := by
  rw [← Text.toList_trim, ← Text.toList_trimEnd, String.toList_inj, Channel.serverUrl]
  cases Channel.url text with
  | error fault => exact ⟨nofun, fun ⟨⟨_, found⟩, _⟩ => nomatch found⟩
  | ok channel =>
    exact ⟨fun same => ⟨⟨channel, rfl⟩, (Except.ok.inj same).symm⟩,
      fun ⟨_, same⟩ => congrArg Except.ok same.symm⟩

/-- Where slashes are lost, they stood behind all that counts of what is kept: no padding at the end
of a text is dropped in front of a slash. -/
theorem exists_lost {text kept : String}
    (same : kept.toList = Text.dropEndWhile (· == '/') (Text.trimChars text.toList))
    (lost : kept ≠ Text.trim text) :
    ∃ n, Url.Parser.clean (Text.trim text) = body kept.toList ++ List.replicate n '/' := by
  obtain ⟨n, whole, counted⟩ := exists_slashes (Text.trimChars text.toList)
  rw [← same] at whole counted
  have some : n ≠ 0 := by
    rintro rfl
    rw [List.replicate_zero, List.append_nil, ← Text.toList_trim, String.toList_inj] at whole
    exact lost whole.symm
  have ends : ∀ c ∈ (Text.trimChars text.toList).getLast?, isPadding c = false := by
    intro c mem
    rw [whole, List.getLast?_append, List.getLast?_replicate, if_neg some] at mem
    cases mem
    rfl
  exact ⟨n, by rw [clean_trim, dropEndWhile_body ends, counted]⟩

/-- What is kept of a base URL has a margin, since the end of the authority is among it. -/
theorem exists_margin_kept {text kept : String}
    (same : kept.toList = Text.dropEndWhile (· == '/') (Text.trimChars text.toList)) {c : Char}
    (mem : c ∈ Text.trimChars text.toList) (solid : Url.isMargin c = false)
    (outer : (c == '/') = false) : ∃ pad, Margin kept pad := by
  obtain ⟨visible, unpadded⟩ := Bool.or_eq_false_iff.1 solid
  have inKept : c ∈ Text.trimChars kept.toList := by
    rw [same, Text.mem_trimChars visible, Text.mem_dropEndWhile (p := (· == '/')) outer]
    exact mem
  have begins : Text.trimChars kept.toList = Text.dropEndWhile Text.isBlank kept.toList := by
    rw [same, Text.trimChars_dropEndWhile]
  exact exists_margin inKept unpadded begins

/-- **A base URL that loses slashes when it is kept.**  It has the authority of the one that is kept;
behind what counts of that stands what is of the margin, and then the slashes. -/
theorem exists_apart_kept {text kept : String} (accepted : Channel.serverUrl text = .ok kept)
    (lost : kept ≠ Text.trim text) :
    ∃ scheme channel front host rest pad n a, Channel.scheme? scheme = some channel ∧
      Apart kept scheme front host rest a ∧
      Apart text scheme front host (rest ++ (pad ++ List.replicate n '/')) a ∧ Margin kept pad := by
  obtain ⟨ok, same⟩ := serverUrl_eq_ok_iff.1 accepted
  obtain ⟨scheme, channel, front, host, behind, a, known, apart⟩ := exists_apart_iff.1 ok
  obtain ⟨c, last, mem, solid, outer⟩ := apart.last
  obtain ⟨n, clean⟩ := exists_lost same lost
  obtain ⟨pad, margin⟩ := exists_margin_kept same mem solid outer
  have fringe : ∀ d ∈ pad ++ List.replicate n '/', (Url.isMargin d || d == '/') = true := by
    intro d mem
    rcases List.mem_append.1 mem with inside | inside
    · rw [margin.all d inside]
      rfl
    · rw [List.eq_of_mem_replicate inside]
      rfl
  have split : (front ++ host) ++ behind =
      Url.Parser.clean (Text.trim kept) ++ (pad ++ List.replicate n '/') := by
    rw [List.append_assoc, ← apart.clean, clean, margin.whole, List.append_assoc]
  -- An authority ends in neither, so that what is lost is lost behind it.
  have neither : (Url.isMargin c || c == '/') = false := by rw [solid, outer]; rfl
  obtain ⟨rest, clean', behind'⟩ := Text.exists_of_append_eq split last neither fringe
  subst behind'
  exact ⟨scheme, channel, front, host, rest, pad, n, a, known,
    ⟨apart.leads, apart.unmarked, apart.inner, apart.stops.of_append, apart.read,
      by rw [clean', List.append_assoc]⟩,
    apart, margin⟩

/-- **A base URL in the form in which it is kept has the authority of the one that was given.** -/
theorem apart_of_serverUrl {text kept : String} (accepted : Channel.serverUrl text = .ok kept) :
    ∃ scheme channel front host rest a, Channel.scheme? scheme = some channel ∧
      Apart kept scheme front host rest a := by
  by_cases same : kept = Text.trim text
  · obtain ⟨scheme, channel, front, host, rest, a, known, apart⟩ :=
      exists_apart_iff.1 (serverUrl_eq_ok_iff.1 accepted).1
    have clean : Url.Parser.clean (Text.trim kept) = front ++ (host ++ rest) := by
      rw [same, Text.trim_trim, apart.clean]
    exact ⟨scheme, channel, front, host, rest, a, known,
      ⟨apart.leads, apart.unmarked, apart.inner, apart.stops, apart.read, clean⟩⟩
  · obtain ⟨scheme, channel, front, host, rest, pad, n, a, known, apart, -⟩ :=
      exists_apart_kept accepted same
    exact ⟨scheme, channel, front, host, rest, a, known, apart⟩

/-! ## The base of calls -/

theorem toList_baseUrl (base : String) :
    (Backend.baseUrl base).toList =
      Text.dropEndWhile (· == '/') (Text.trimChars base.toList) := by
  rw [Backend.baseUrl, Text.trimEndSlashes, Text.toList_trimEnd, Text.toList_trim]

namespace Apart

variable {base scheme : String} {front host rest : List Char} {a : Url.Authority}

/-- Where the base URL ends in no padding, calls go to it without the slashes at its end. -/
theorem body_of_solid (apart : Apart base scheme front host rest a)
    (solid : ∀ c ∈ (Text.trim base).toList.getLast?, isPadding c = false) :
    ∃ shorter n, rest = shorter ++ List.replicate n '/' ∧
      body (Backend.baseUrl base).toList = front ++ (host ++ shorter) := by
  have clean := apart.clean
  rw [clean_trim] at clean
  rw [Text.toList_trim] at solid
  rw [toList_baseUrl]
  generalize Text.trimChars base.toList = trimmed at clean solid ⊢
  rw [dropEndWhile_body solid] at clean
  obtain ⟨n, -, counted⟩ := exists_slashes trimmed
  have slashes : ∀ c ∈ List.replicate n '/', (c == '/') = true :=
    fun c mem => beq_iff_eq.2 (List.eq_of_mem_replicate mem)
  obtain ⟨c, last, -, -, outer⟩ := apart.last
  have same : (front ++ host) ++ rest =
      body (Text.dropEndWhile (· == '/') trimmed) ++ List.replicate n '/' := by
    rw [List.append_assoc, ← clean, counted]
  obtain ⟨shorter, short, longer⟩ := Text.exists_of_append_eq same last outer slashes
  exact ⟨shorter, n, longer, by rw [short, List.append_assoc]⟩

/-- Where it ends in padding, calls go to what has the padding behind it. -/
theorem body_of_padded (apart : Apart base scheme front host rest a) {c : Char}
    (last : (Text.trim base).toList.getLast? = some c) (padding : isPadding c = true) :
    ∃ pad, pad ≠ [] ∧ (∀ d ∈ pad, isPadding d = true) ∧
      body (Backend.baseUrl base).toList = front ++ (host ++ (rest ++ pad)) := by
  have clean := apart.clean
  rw [clean_trim] at clean
  rw [Text.toList_trim] at last
  rw [toList_baseUrl]
  have visible : Text.isBlank c = false := Text.getLast?_trimChars base.toList c last
  obtain ⟨d, -, mem, solid, -⟩ := apart.last
  have unpadded : isPadding d = false := (Bool.or_eq_false_iff.1 solid).2
  have ends : (body (Text.trimChars base.toList)).getLast? = some c := by
    rw [getLast?_body mem unpadded, getLast?_filter last visible]
  have open' : Text.dropEndWhile (· == '/') (Text.trimChars base.toList) =
      Text.trimChars base.toList := by
    refine Text.dropEndWhile_eq_self_iff.2 fun e end' => ?_
    rw [last] at end'
    cases end'
    rw [beq_eq_false_iff_ne]
    rintro rfl
    exact absurd padding (by decide)
  rw [open']
  obtain ⟨pad, split, all⟩ := Text.dropEndWhile_split isPadding (body (Text.trimChars base.toList))
  rw [clean] at split
  refine ⟨pad, ?_, all, by rw [split, List.append_assoc, List.append_assoc]⟩
  -- The padding at the end is not skipped, and it is no part of what counts.
  rintro rfl
  rw [List.append_nil] at split
  have outer := Text.getLast?_dropEndWhile isPadding (body (Text.trimChars base.toList)) c
  rw [clean, ← split] at outer
  rw [outer ends] at padding
  cases padding

end Apart

end VoiceTicket
