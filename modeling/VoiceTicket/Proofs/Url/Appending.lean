/-
  What becomes of a URL when something is appended to its text.

  1. **Data** — the text of a URL of one of the well-known schemes falls into all up to the
     authority (`Leads`), the authority (`Inner`), and the rest of it, which is empty or begins
     with a character that ends an authority (`Stops`).

  2. **Specification** — `exists_leads`: what is exchanged behind an authority leaves scheme and
     authority alone.  `tail_eq_iff`: the rest is all path exactly if no query and no fragment
     begins in it; `path_append_of_marked`: if one does, what is appended is no part of the path.

  3. **Crux** — what does not count goes from a text before it is taken apart, but only at its ends
     does it matter what stands next to it (`body_append_of_head`).
-/
import VoiceTicket.Proofs.Text.Runs
import VoiceTicket.Proofs.Url.Hosts

namespace VoiceTicket.Url.Parser

/-! ## The characters that count -/

/-- The URL that a text spells, from the characters of it that count. -/
def ofClean (cs : List Char) : Except Fault Url :=
  match scheme? cs with
  | none => .error .relative
  | some (scheme, rest) =>
    match SchemeKind.of scheme with
    | .special => withAuthority scheme .special (rest.dropWhile (isSlash .special))
    | .file => file rest
    | .other => other scheme rest

theorem parse_eq (s : String) : parse s = ofClean (clean s) := rfl

/-- The characters of a text that count, and the padding at its end. -/
def body (cs : List Char) : List Char := (cs.dropWhile isPadding).filter (!isSkipped ·)

theorem isPadding_of_isSkipped {c : Char} (skipped : isSkipped c = true) : isPadding c = true := by
  simp only [isSkipped, Bool.or_eq_true, beq_iff_eq] at skipped
  rcases skipped with (rfl | rfl) | rfl <;> decide

theorem not_isSkipped {c : Char} (solid : isPadding c = false) : (!isSkipped c) = true := by
  rw [Bool.not_eq_true', Bool.eq_false_iff]
  intro skipped
  rw [isPadding_of_isSkipped skipped] at solid
  cases solid

/-- It does not matter whether what is skipped goes before the padding or after it. -/
theorem filter_dropWhile (cs : List Char) :
    (cs.dropWhile isPadding).filter (!isSkipped ·) =
      (cs.filter (!isSkipped ·)).dropWhile isPadding := by
  induction cs with
  | nil => rfl
  | cons c cs ih =>
    cases padding : isPadding c with
    | true =>
      rw [List.dropWhile_cons_of_pos padding, ih, List.filter_cons]
      split
      · rw [List.dropWhile_cons_of_pos padding]
      · rfl
    | false =>
      have solid : ¬ isPadding c = true := Bool.eq_false_iff.1 padding
      rw [List.dropWhile_cons_of_neg solid, List.filter_cons, if_pos (not_isSkipped padding),
        List.dropWhile_cons_of_neg solid]

theorem clean_eq (s : String) : clean s = Text.dropEndWhile isPadding (body s.toList) := by
  rw [clean, body, Text.dropEndWhile, Text.dropEndWhile, List.filter_reverse, filter_dropWhile,
    ← List.filter_reverse]

theorem dropWhile_append_of_mem {cs : List Char} {c : Char} (mem : c ∈ cs)
    (solid : isPadding c = false) (rest : List Char) :
    (cs ++ rest).dropWhile isPadding = cs.dropWhile isPadding ++ rest := by
  rw [List.dropWhile_append]
  split
  · next gone =>
    have left := (Text.mem_dropWhile solid).2 mem
    rw [List.isEmpty_iff.1 gone] at left
    cases left
  · rfl

theorem body_append_of_mem {cs : List Char} {c : Char} (mem : c ∈ cs) (solid : isPadding c = false)
    (rest : List Char) : body (cs ++ rest) = body cs ++ rest.filter (!isSkipped ·) := by
  rw [body, body, dropWhile_append_of_mem mem solid, List.filter_append]

theorem body_append_of_head {rest : List Char} (begins : ∀ c ∈ rest.head?, isPadding c = false)
    (cs : List Char) : body (cs ++ rest) = body cs ++ rest.filter (!isSkipped ·) := by
  rw [body, body, List.dropWhile_append]
  split
  · next gone =>
    rw [List.isEmpty_iff.1 gone, Text.dropWhile_of_head? begins]
    rfl
  · rw [List.filter_append]

theorem mem_body {cs : List Char} {c : Char} (solid : isPadding c = false) :
    c ∈ body cs ↔ c ∈ cs := by
  rw [body, List.mem_filter, Text.mem_dropWhile solid]
  exact and_iff_left (not_isSkipped solid)

/-- What counts of a text that ends in no padding ends in none. -/
theorem dropEndWhile_body {cs : List Char} (solid : ∀ c ∈ cs.getLast?, isPadding c = false) :
    Text.dropEndWhile isPadding (body cs) = body cs := by
  cases last : cs.getLast? with
  | none => rw [List.getLast?_eq_none_iff.1 last]; rfl
  | some c =>
    obtain ⟨start, rfl⟩ := List.getLast?_eq_some_iff.1 last
    have outer : isPadding c = false := solid c last
    have kept : [c].filter (!isSkipped ·) = [c] := List.filter_cons_of_pos (not_isSkipped outer)
    rw [body_append_of_head (fun d mem => by cases mem; exact outer), kept,
      Text.dropEndWhile_append_singleton _ outer]

/-! ## Query and fragment -/

/-- Neither a query nor a fragment begins in the text. -/
def Unmarked (cs : List Char) : Prop := ∀ c ∈ cs, c ≠ '?' ∧ c ≠ '#'

theorem unmarked_append {xs ys : List Char} : Unmarked (xs ++ ys) ↔ Unmarked xs ∧ Unmarked ys :=
  List.forall_mem_append

theorem unmarked_iff {cs : List Char} : Unmarked cs ↔ '?' ∉ cs ∧ '#' ∉ cs := by
  constructor
  · intro unmarked
    exact ⟨fun mem => (unmarked '?' mem).1 rfl, fun mem => (unmarked '#' mem).2 rfl⟩
  · rintro ⟨query, fragment⟩ c mem
    exact ⟨fun same => query (same ▸ mem), fun same => fragment (same ▸ mem)⟩

theorem splitFirst_eq_none_iff {sep : Char} {cs : List Char} :
    (splitFirst sep cs).2 = none ↔ ∀ c ∈ cs, c ≠ sep := by
  constructor
  · intro none' c mem
    rintro rfl
    have left : c ∈ cs.dropWhile (· != c) := (Text.mem_dropWhile (by simp)).2 mem
    rw [splitFirst] at none'
    split at none'
    · next gone =>
      rw [gone] at left
      cases left
    · cases none'
  · intro apart
    rw [splitFirst, Text.dropWhile_eq_nil fun c mem => bne_iff_ne.2 (apart c mem)]

theorem splitFirst_of_none {sep : Char} {cs : List Char} (none' : (splitFirst sep cs).2 = none) :
    (splitFirst sep cs).1 = cs := by
  rw [splitFirst] at none' ⊢
  split
  · rfl
  · next begins =>
    rw [begins] at none'
    cases none'

theorem splitFirst_fst (sep : Char) (cs : List Char) :
    (splitFirst sep cs).1 = cs.takeWhile (· != sep) := by
  have whole := List.takeWhile_append_dropWhile (p := (· != sep)) (l := cs)
  rw [splitFirst]
  split
  · next gone =>
    rw [gone, List.append_nil] at whole
    exact whole.symm
  · rfl

/-- What comes behind the first separator makes no difference in front of it. -/
theorem splitFirst_append_of_mem {sep : Char} {cs : List Char} (mem : sep ∈ cs) (more : List Char) :
    (splitFirst sep (cs ++ more)).1 = (splitFirst sep cs).1 := by
  rw [splitFirst_fst, splitFirst_fst, List.takeWhile_append, if_neg]
  intro same
  have whole := (List.takeWhile_prefix (· != sep)).eq_of_length same
  rw [← whole] at mem
  have other : (sep != sep) = true := Text.of_mem_takeWhile (p := (· != sep)) mem
  exact bne_iff_ne.1 other rfl

/-- A text has neither query nor fragment exactly if none begins in it, and then it is all path. -/
theorem tail_eq_iff {cs : List Char} :
    (Tail.of cs).query = none ∧ (Tail.of cs).fragment = none ↔ Unmarked cs := by
  constructor
  · rintro ⟨query, fragment⟩ c mem
    have whole : (splitFirst '#' cs).1 = cs := splitFirst_of_none fragment
    have query : (splitFirst '?' (splitFirst '#' cs).1).2 = none := query
    rw [whole] at query
    exact ⟨splitFirst_eq_none_iff.1 query c mem, splitFirst_eq_none_iff.1 fragment c mem⟩
  · intro unmarked
    have fragment : (splitFirst '#' cs).2 = none :=
      splitFirst_eq_none_iff.2 fun c mem => (unmarked c mem).2
    have query : (splitFirst '?' (splitFirst '#' cs).1).2 = none := by
      rw [splitFirst_of_none fragment]
      exact splitFirst_eq_none_iff.2 fun c mem => (unmarked c mem).1
    exact ⟨query, fragment⟩

theorem Unmarked.path {cs : List Char} (unmarked : Unmarked cs) : (Tail.of cs).path = cs := by
  have fragment : (splitFirst '#' cs).2 = none := (tail_eq_iff.2 unmarked).2
  have query : (splitFirst '?' (splitFirst '#' cs).1).2 = none := (tail_eq_iff.2 unmarked).1
  show (splitFirst '?' (splitFirst '#' cs).1).1 = cs
  rw [splitFirst_of_none query, splitFirst_of_none fragment]

/-- What comes behind the beginning of a query or a fragment is no part of the path. -/
theorem path_append_of_marked {cs : List Char} (marked : ¬ Unmarked cs) (more : List Char) :
    (Tail.of (cs ++ more)).path = (Tail.of cs).path := by
  show (splitFirst '?' (splitFirst '#' (cs ++ more)).1).1 =
    (splitFirst '?' (splitFirst '#' cs).1).1
  by_cases fragment : '#' ∈ cs
  · rw [splitFirst_append_of_mem fragment]
  · have query : '?' ∈ cs :=
      Classical.byContradiction fun query => marked (unmarked_iff.2 ⟨query, fragment⟩)
    have apart : ∀ c ∈ cs, (c != '#') = true := by
      intro c mem
      rw [bne_iff_ne]
      rintro rfl
      exact fragment mem
    have whole : (splitFirst '#' cs).1 = cs :=
      splitFirst_of_none (splitFirst_eq_none_iff.2 fun c mem => bne_iff_ne.1 (apart c mem))
    rw [whole, splitFirst_fst '#', List.takeWhile_append_of_pos apart,
      splitFirst_append_of_mem query]

/-! ## Scheme, authority and rest -/

/-- What follows ends an authority. -/
def Stops (rest : List Char) : Prop := ∀ c ∈ rest.head?, endsAuthority .special c = true

/-- Characters that can be an authority: some, none of which ends it. -/
structure Inner (cs : List Char) : Prop where
  some : cs ≠ []
  inside : ∀ c ∈ cs, endsAuthority .special c = false

/-- The URL with an authority, and what follows it. -/
def followedBy (scheme : String) (rest : List Char) (a : Authority) : Url :=
  assemble scheme .special (some a) (pathAfterAuthority .special (Tail.of rest).path) (Tail.of rest)

/-- All up to the authority: scheme, colon and slashes. -/
def Leads (scheme : String) (front : List Char) : Prop :=
  ∀ host rest, Inner host → Stops rest →
    ofClean (front ++ (host ++ rest)) =
      (authority scheme .special false host).map (followedBy scheme rest)

/-- A port without a backslash ends only where the authority does. -/
theorem behindPort_of_inner {cs : List Char} (inside : ∀ c ∈ cs, c ≠ '\\') :
    behindPort cs = [] := by
  have port (cs : List Char) (inside : ∀ c ∈ cs, c ≠ '\\') :
      (hostSpan false cs).2.dropWhile (· != '\\') = [] := by
    refine Text.dropWhile_eq_nil fun c mem => bne_iff_ne.2 (inside c ?_)
    rw [← (hostSpan_cases false cs).1]
    exact List.mem_append_right _ mem
  rw [behindPort]
  cases split : splitLast '@' cs with
  | none => exact port cs inside
  | some pair =>
    refine port pair.2 fun c mem => inside c ?_
    rw [splitLast] at split
    split at split
    · cases split
      exact List.mem_reverse.1 (List.takeWhile_subset _ (List.mem_reverse.1 mem))
    · cases split

theorem withAuthority_special (scheme : String) (cs : List Char) :
    withAuthority scheme .special cs =
      (authority scheme .special false (cs.takeWhile (!endsAuthority .special ·))).map
        (followedBy scheme (cs.dropWhile (!endsAuthority .special ·))) := by
  have whole : behindPort (cs.takeWhile (!endsAuthority .special ·)) = [] := by
    refine behindPort_of_inner fun c mem => ?_
    rintro rfl
    have inside := Text.of_mem_takeWhile mem
    cases inside
  rw [withAuthority, spanAuthority]
  simp only [whole, List.length_nil, Nat.sub_zero, List.take_length, List.nil_append]
  rw [authority_special scheme (!_), ← authority_special scheme false]
  cases authority scheme .special false (cs.takeWhile (!endsAuthority .special ·)) <;> rfl

/-- Whether a character can stand in a scheme. -/
def isSchemePart (c : Char) : Bool := c.isAlphanum || c == '+' || c == '-' || c == '.'

theorem scheme?_eq (cs : List Char) :
    scheme? cs =
      match cs.takeWhile isSchemePart, cs.dropWhile isSchemePart with
      | c :: name, ':' :: rest =>
        if c.isAlpha then some (String.ofList ((c :: name).map Char.toLower), rest) else none
      | _, _ => none := rfl

/-- A scheme is the same whatever stands behind its colon. -/
theorem scheme?_eq_some {cs rest : List Char} {scheme : String}
    (found : scheme? cs = some (scheme, rest)) :
    ∃ name, cs = name ++ ':' :: rest ∧ (∀ c ∈ name, isSchemePart c = true) ∧
      ∀ rest', scheme? (name ++ ':' :: rest') = some (scheme, rest') := by
  rw [scheme?_eq] at found
  split at found
  · next c name rest front behind =>
    split at found
    · next alpha =>
      cases found
      have parts : ∀ d ∈ c :: name, isSchemePart d = true := by
        rw [← front]
        exact fun d mem => Text.of_mem_takeWhile mem
      refine ⟨c :: name, ?_, parts, fun rest' => ?_⟩
      · rw [← front, ← behind, List.takeWhile_append_dropWhile]
      · have stops : ∀ d ∈ (':' :: rest').head?, isSchemePart d = false := by
          intro d mem
          cases mem
          decide
        obtain ⟨taken, dropped⟩ := Text.span_append parts stops
        rw [scheme?_eq, taken, dropped]
        exact if_pos alpha
    · cases found
  · cases found

theorem not_mark_of_isSchemePart {c : Char} (part : isSchemePart c = true) : c ≠ '?' ∧ c ≠ '#' := by
  constructor
  · rintro rfl
    exact absurd part (by decide)
  · rintro rfl
    exact absurd part (by decide)

theorem isSlash_special {c : Char} : isSlash .special c = true ↔ c = '/' ∨ c = '\\' := by
  simp [isSlash, SchemeKind.isSpecial]

theorem scheme_of_withAuthority {scheme : String} {kind : SchemeKind} {cs : List Char} {u : Url}
    (found : withAuthority scheme kind cs = .ok u) : u.scheme = scheme := by
  rw [withAuthority] at found
  dsimp only at found
  cases read : authority scheme kind (!(spanAuthority kind cs).2.isEmpty)
      (spanAuthority kind cs).1 with
  | error fault =>
    rw [read] at found
    cases found
  | ok a =>
    rw [read] at found
    cases found
    rfl

theorem scheme_of_file {cs : List Char} {u : Url} (found : file cs = .ok u) :
    u.scheme = "file" := by
  rw [file] at found
  split at found
  · next first second path begins =>
    split at found
    · dsimp only at found
      split at found
      · cases found
        rfl
      · cases read : specialHost (path.takeWhile (!isSlash .file ·)) with
        | error fault =>
          rw [read] at found
          cases found
        | ok host =>
          rw [read] at found
          cases found
          rfl
    · cases found
      rfl
  · cases found
    rfl

theorem scheme_of_other {scheme : String} {cs : List Char} {u : Url}
    (found : other scheme cs = .ok u) : u.scheme = scheme := by
  unfold other at found
  split at found
  · exact scheme_of_withAuthority found
  · cases found
    rfl

theorem not_isSlash {c : Char} (inside : endsAuthority .special c = false) :
    isSlash .special c = false := by
  rw [endsAuthority, Bool.or_eq_false_iff, Bool.or_eq_false_iff] at inside
  exact inside.1.1

theorem not_mark {c : Char} (inside : endsAuthority .special c = false) : c ≠ '?' ∧ c ≠ '#' := by
  rw [endsAuthority, Bool.or_eq_false_iff, Bool.or_eq_false_iff, beq_eq_false_iff_ne,
    beq_eq_false_iff_ne] at inside
  exact ⟨inside.1.2, inside.2⟩

/-- Nothing of the margin ends an authority. -/
theorem endsAuthority_of_margin {c : Char} (margin : isMargin c = true) :
    endsAuthority .special c = false := by
  rw [Bool.eq_false_iff]
  intro ends
  simp only [endsAuthority, Bool.or_eq_true, beq_iff_eq, isSlash_special] at ends
  rcases ends with ((rfl | rfl) | rfl) | rfl <;> exact absurd margin (by decide)

theorem unmarked_of_margin {pad : List Char} (all : ∀ c ∈ pad, isMargin c = true) : Unmarked pad :=
  fun c mem => not_mark (endsAuthority_of_margin (all c mem))

theorem not_mark_of_isSlash {c : Char} (slash : isSlash .special c = true) : c ≠ '?' ∧ c ≠ '#' := by
  rcases isSlash_special.1 slash with rfl | rfl
  · exact ⟨by decide, by decide⟩
  · exact ⟨by decide, by decide⟩

/-- A URL is of the scheme that its text begins with. -/
theorem scheme_of_ofClean {cs rest : List Char} {scheme : String} {u : Url}
    (found : ofClean cs = .ok u) (begins : scheme? cs = some (scheme, rest)) :
    u.scheme = scheme := by
  rw [ofClean, begins] at found
  dsimp only at found
  cases kind : SchemeKind.of scheme with
  | special =>
    rw [kind] at found
    exact scheme_of_withAuthority found
  | file =>
    rw [kind] at found
    have file : scheme = "file" := by
      rw [SchemeKind.of] at kind
      split at kind
      · assumption
      · split at kind <;> cases kind
    rw [file]
    exact scheme_of_file found
  | other =>
    rw [kind] at found
    exact scheme_of_other found

/-- Slashes behind the colon of a well-known scheme lead to an authority. -/
theorem leads_of_slashes {scheme : String} {name slashes : List Char}
    (special : SchemeKind.of scheme = .special)
    (begins : ∀ rest, scheme? (name ++ ':' :: rest) = some (scheme, rest))
    (all : ∀ c ∈ slashes, isSlash .special c = true) : Leads scheme (name ++ ':' :: slashes) := by
  intro host rest inner stops
  have behind : ∀ c ∈ (host ++ rest).head?, isSlash .special c = false := by
    intro c mem
    obtain ⟨first, others, rfl⟩ := List.exists_cons_of_ne_nil inner.some
    cases mem
    exact not_isSlash (inner.inside c List.mem_cons_self)
  have outside : ∀ c ∈ rest.head?, (!endsAuthority .special c) = false := by
    intro c mem
    rw [stops c mem]
    rfl
  have inside : ∀ c ∈ host, (!endsAuthority .special c) = true := by
    intro c mem
    rw [inner.inside c mem]
    rfl
  obtain ⟨-, slashed⟩ := Text.span_append all behind
  obtain ⟨taken, dropped⟩ := Text.span_append inside outside
  rw [List.append_assoc, List.cons_append, ofClean, begins]
  simp only [special]
  rw [slashed, withAuthority_special, taken, dropped]

theorem unmarked_of_slashes {name slashes : List Char}
    (parts : ∀ c ∈ name, isSchemePart c = true)
    (all : ∀ c ∈ slashes, isSlash .special c = true) : Unmarked (name ++ ':' :: slashes) := by
  intro c mem
  rcases List.mem_append.1 mem with part | behind
  · exact not_mark_of_isSchemePart (parts c part)
  · rcases List.mem_cons.1 behind with rfl | slash
    · exact ⟨by decide, by decide⟩
    · exact not_mark_of_isSlash (all c slash)

/-- **A URL of one of the well-known schemes, taken apart.**  What is in front of the authority
leads to any other authority just as well. -/
theorem exists_leads {cs : List Char} {u : Url} (found : ofClean cs = .ok u)
    (special : SchemeKind.of u.scheme = .special) :
    ∃ front host rest a, cs = front ++ (host ++ rest) ∧ Leads u.scheme front ∧
      Unmarked front ∧ Inner host ∧ Stops rest ∧
      authority u.scheme .special false host = .ok a ∧ u = followedBy u.scheme rest a := by
  cases begins : scheme? cs with
  | none =>
    rw [ofClean, begins] at found
    cases found
  | some pair =>
    obtain ⟨scheme, behind⟩ := pair
    obtain ⟨name, whole, parts, again⟩ := scheme?_eq_some begins
    have same := scheme_of_ofClean found begins
    rw [same] at special ⊢
    rw [ofClean, begins] at found
    simp only [special] at found
    rw [withAuthority_special] at found
    -- What is behind the colon: slashes, the authority, and the rest.
    let slashes := behind.takeWhile (isSlash .special)
    let hosted := behind.dropWhile (isSlash .special)
    let host := hosted.takeWhile (!endsAuthority .special ·)
    let rest := hosted.dropWhile (!endsAuthority .special ·)
    change (authority scheme .special false host).map (followedBy scheme rest) = .ok u at found
    cases read : authority scheme .special false host with
    | error fault =>
      rw [read] at found
      cases found
    | ok a =>
      rw [read] at found
      have all : ∀ c ∈ slashes, isSlash .special c = true := fun c => Text.of_mem_takeWhile
      refine ⟨name ++ ':' :: slashes, host, rest, a, ?_, leads_of_slashes special again all,
        unmarked_of_slashes parts all, ?_, ?_, read, (Except.ok.inj found).symm⟩
      · rw [whole, List.append_assoc, List.cons_append, List.takeWhile_append_dropWhile,
          List.takeWhile_append_dropWhile]
      · refine ⟨?_, fun c mem => by simpa using Text.of_mem_takeWhile mem⟩
        intro none'
        rw [none', authority_special] at read
        cases read
      · intro c mem
        simpa using Text.head?_dropWhile hosted c mem

end VoiceTicket.Url.Parser
