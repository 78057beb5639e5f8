/-
  Paths of URLs, and what is appended to them.

  1. **Data** — a path is read off the segments between its slashes (`segmentsOf`).  `upTo rest` is
     as far as a path goes before something is appended to it.

  2. **Specification** — `path_of_call`: what is appended behind a slash is appended to that.
     `path_of_channel`: the path of the channel is that, too, but for the empty segments at its
     end.  `lt_of_padded`: what is of the margin makes a path longer than the channel's.

  3. **Crux** — resolving dot segments is a fold with the path so far as a stack (`push`), so that
     a prefix of the segments is a stack and nothing else (`resolve_append`).
-/
import Mathlib.Algebra.Ring.Nat
import VoiceTicket.Channel
import VoiceTicket.Proofs.Url.Appending

/-! ## The channel, part by part -/

namespace VoiceTicket.Channel

/-- The segments of a path without the empty ones at its end. -/
def dropEmptyEnd (parts : List String) : List String :=
  (parts.reverse.dropWhile (·.isEmpty)).reverse

/-- The path of the channel below a path. -/
def pathBelow : Url.Path → Url.Path
  | .segments parts => .segments (dropEmptyEnd parts ++ ["ws", "status"])
  | .plain text => .plain text

/-- The channel of a server, part by part. -/
def ofServer (u : Url) (scheme : String) : Url :=
  { scheme, authority := u.authority, path := pathBelow u.path, query := none, fragment := none }

end VoiceTicket.Channel

namespace VoiceTicket.Url.Parser

open VoiceTicket.Channel (dropEmptyEnd)

/-! ## Segments -/

theorem exists_cut (kind : SchemeKind) (cs : List Char) :
    ∃ part parts, cut kind cs = part :: parts := by
  induction cs with
  | nil => exact ⟨[], [], rfl⟩
  | cons c cs ih =>
    obtain ⟨part, parts, cut'⟩ := ih
    rw [cut, cut']
    dsimp only
    split
    · exact ⟨[], part :: parts, rfl⟩
    · exact ⟨c :: part, parts, rfl⟩

/-- A slash ends a segment, whatever follows. -/
theorem cut_append {kind : SchemeKind} (cs rest : List Char) :
    cut kind (cs ++ '/' :: rest) = cut kind cs ++ cut kind rest := by
  induction cs with
  | nil =>
    obtain ⟨part, parts, cut'⟩ := exists_cut kind rest
    show cut kind ('/' :: rest) = [] :: cut kind rest
    rw [cut, cut']
    rfl
  | cons c cs ih =>
    obtain ⟨part, parts, cut'⟩ := exists_cut kind cs
    rw [List.cons_append, cut, cut, ih, cut']
    dsimp only [List.cons_append]
    split <;> rfl

/-- What is appended without a slash goes to the last segment. -/
theorem cut_append_of_inner {kind : SchemeKind} (cs : List Char) {rest : List Char}
    (inside : ∀ c ∈ rest, isSlash kind c = false) :
    ∃ front last, cut kind cs = front ++ [last] ∧
      cut kind (cs ++ rest) = front ++ [last ++ rest] := by
  induction cs with
  | nil =>
    refine ⟨[], [], rfl, ?_⟩
    rw [List.nil_append, List.nil_append]
    induction rest with
    | nil => rfl
    | cons c cs ih =>
      rw [cut, ih fun d mem => inside d (List.mem_cons_of_mem c mem)]
      simp only [inside c List.mem_cons_self, Bool.false_eq_true, if_false]
  | cons c cs ih =>
    obtain ⟨front, last, cut', cut''⟩ := ih
    rw [List.cons_append, cut, cut, cut', cut'']
    cases front with
    | nil =>
      dsimp only [List.nil_append]
      split
      · exact ⟨[[]], last, rfl, rfl⟩
      · exact ⟨[], c :: last, rfl, rfl⟩
    | cons part front =>
      dsimp only [List.cons_append]
      split
      · exact ⟨[] :: part :: front, last, rfl, rfl⟩
      · exact ⟨(c :: part) :: front, last, rfl, rfl⟩

/-! ## Resolving -/

/-- A segment that does not stand for itself. -/
def isDot (s : String) : Bool := isDoubleDot s || isSingleDot s

/-- Takes one more segment onto a path that is held in reverse. -/
def push (up : List String) (s : String) : List String :=
  if isDoubleDot s then climb up else if isSingleDot s then up else s :: up

theorem push_of_not_isDot {s : String} (plain : isDot s = false) (up : List String) :
    push up s = s :: up := by
  rw [isDot, Bool.or_eq_false_iff] at plain
  rw [push, plain.1, plain.2, if_neg Bool.false_ne_true, if_neg Bool.false_ne_true]

/-- The last segment of a path leaves an empty one if it does not stand for itself. -/
theorem resolve_singleton (up : List String) (s : String) :
    resolve up [s] = (push up s).reverse ++ if isDot s then [""] else [] := by
  rw [resolve, push, isDot]
  cases isDoubleDot s with
  | true => rw [if_pos rfl, if_pos rfl, Bool.true_or, if_pos rfl, List.reverse_cons]
  | false =>
    rw [if_neg Bool.false_ne_true, if_neg Bool.false_ne_true, Bool.false_or]
    cases isSingleDot s with
    | true => rw [if_pos rfl, if_pos rfl, if_pos rfl, List.reverse_cons]
    | false =>
      rw [if_neg Bool.false_ne_true, if_neg Bool.false_ne_true, if_neg Bool.false_ne_true,
        List.append_nil]

/-- **Resolving is a fold**: the segments in front leave a path, and the others go on from there. -/
theorem resolve_append (up segments : List String) {rest : List String} (some : rest ≠ []) :
    resolve up (segments ++ rest) = resolve (segments.foldl push up) rest := by
  induction segments generalizing up with
  | nil => rfl
  | cons s segments ih =>
    have more : segments ++ rest ≠ [] := fun none' => some (List.append_eq_nil_iff.1 none').2
    have step : resolve up (s :: (segments ++ rest)) = resolve (push up s) (segments ++ rest) := by
      obtain ⟨next, others, shape⟩ := List.exists_cons_of_ne_nil more
      rw [shape, resolve, push]
      · split
        · rfl
        · split <;> rfl
      · exact nofun
    rw [List.cons_append, step, ih, List.foldl_cons]

/-- Segments that stand for themselves are appended. -/
theorem resolve_of_plain {segments : List String} (plain : ∀ s ∈ segments, isDot s = false)
    (up : List String) : resolve up segments = up.reverse ++ segments := by
  induction segments generalizing up with
  | nil => rw [resolve, List.append_nil]
  | cons s segments ih =>
    have first := plain s List.mem_cons_self
    have others : ∀ t ∈ segments, isDot t = false :=
      fun t mem => plain t (List.mem_cons_of_mem s mem)
    cases segments with
    | nil =>
      rw [resolve_singleton, push_of_not_isDot first, first, if_neg Bool.false_ne_true,
        List.append_nil, List.reverse_cons]
    | cons t rest =>
      have apart := resolve_append up [s] (List.cons_ne_nil t rest)
      rw [List.singleton_append, List.foldl_cons, List.foldl_nil, push_of_not_isDot first] at apart
      rw [apart, ih others, List.reverse_cons, List.append_assoc, List.singleton_append]

/-! ## Paths -/

/-- The segments of a text, as they are written in a path. -/
def segmentsOf (cs : List Char) : List String :=
  (cut .special cs).map (Percent.encode Percent.path)

theorem exists_segmentsOf (cs : List Char) : ∃ first rest, segmentsOf cs = first :: rest := by
  obtain ⟨part, parts, cut'⟩ := exists_cut .special cs
  exact ⟨_, _, by rw [segmentsOf, cut', List.map_cons]⟩

theorem segmentsOf_append (cs rest : List Char) :
    segmentsOf (cs ++ '/' :: rest) = segmentsOf cs ++ segmentsOf rest := by
  rw [segmentsOf, cut_append, List.map_append]
  rfl

/-- The segments of a text that begins with a slash, and so those of a path once a slash follows. -/
def passed : List Char → List String
  | [] => []
  | _ :: cs => segmentsOf cs

theorem head_isSlash {c : Char} {cs : List Char} (unmarked : Unmarked (c :: cs))
    (stops : Stops (c :: cs)) : isSlash .special c = true := by
  have ends := stops c rfl
  have mark := unmarked c List.mem_cons_self
  simp only [endsAuthority, Bool.or_eq_true, beq_iff_eq, mark.1, mark.2, or_false] at ends
  exact ends

/-- **The path of a URL, with more behind a slash.** -/
theorem path_append {rest : List Char} (unmarked : Unmarked rest) (stops : Stops rest)
    (more : List Char) :
    pathAfterAuthority .special (rest ++ '/' :: more) =
      .segments (resolve ((passed rest).foldl push []) (segmentsOf more)) := by
  obtain ⟨first, others, segments'⟩ := exists_segmentsOf more
  have some : segmentsOf more ≠ [] := by
    rw [segments']
    exact List.cons_ne_nil _ _
  cases rest with
  | nil => rfl
  | cons c cs =>
    have slash := head_isSlash unmarked stops
    have begins : dropSlash .special (c :: cs ++ '/' :: more) = cs ++ '/' :: more := by
      rw [List.cons_append, dropSlash, if_pos slash]
    show Path.segments (resolve [] (segmentsOf (dropSlash .special (c :: cs ++ '/' :: more)))) = _
    rw [begins, segmentsOf_append, resolve_append _ _ some]
    rfl

theorem exists_parts (cs : List Char) :
    ∃ parts, pathAfterAuthority .special cs = .segments parts := ⟨_, rfl⟩

theorem path_of_unmarked {rest : List Char} (unmarked : Unmarked rest) (stops : Stops rest)
    (some : rest ≠ []) :
    pathAfterAuthority .special rest = .segments (resolve [] (passed rest)) := by
  obtain ⟨c, cs, rfl⟩ := List.exists_cons_of_ne_nil some
  have slash := head_isSlash unmarked stops
  rw [pathAfterAuthority, dropSlash, if_pos slash]
  rfl

/-! ## The length of a path -/

/-- The length of the text of a path. -/
def size (parts : List String) : Nat := (parts.map (·.length + 1)).sum

theorem size_append (xs ys : List String) : size (xs ++ ys) = size xs + size ys := by
  rw [size, List.map_append, List.sum_append_nat]
  rfl

theorem size_reverse (xs : List String) : size xs.reverse = size xs := by
  rw [size, List.map_reverse, List.sum_reverse]
  rfl

theorem size_cons (s : String) (parts : List String) :
    size (s :: parts) = s.length + 1 + size parts := rfl

theorem text_append (xs ys : List String) :
    (Path.segments (xs ++ ys)).text =
      (Path.segments xs).text ++ (Path.segments ys).text := by
  rw [Path.text, List.map_append, String.join_append]
  rfl

theorem length_text (parts : List String) : (Path.segments parts).text.length = size parts := by
  induction parts with
  | nil => rfl
  | cons s parts ih =>
    show (String.join (("/" ++ s) :: parts.map ("/" ++ ·))).length = (s.length + 1) + size parts
    rw [String.join_cons, String.length_append, String.length_append, ← ih, Nat.add_comm s.length]
    rfl

/-! ## Empty segments at the end -/

theorem dropEmptyEnd_append {ys : List String} (empty : ∀ s ∈ ys, s.isEmpty = true)
    (xs : List String) : dropEmptyEnd (xs ++ ys) = dropEmptyEnd xs := by
  rw [dropEmptyEnd, List.reverse_append, List.dropWhile_append_of_pos]
  · rfl
  · exact fun s mem => empty s (List.mem_reverse.1 mem)

theorem size_dropEmptyEnd_le (xs : List String) : size (dropEmptyEnd xs) ≤ size xs := by
  have whole := List.takeWhile_append_dropWhile (p := (·.isEmpty)) (l := xs.reverse)
  have sizes := size_append (xs.reverse.takeWhile (·.isEmpty)) (xs.reverse.dropWhile (·.isEmpty))
  rw [whole, size_reverse] at sizes
  rw [dropEmptyEnd, size_reverse]
  omega

/-- A path that is no shorter without the empty segments at its end has none. -/
theorem closed_of_size {xs : List String} (same : size (dropEmptyEnd xs) = size xs) :
    ¬ [""] <:+ xs := by
  rintro ⟨front, rfl⟩
  rw [dropEmptyEnd_append (by decide), size_append] at same
  have less := size_dropEmptyEnd_le front
  have more : size [""] = 1 := rfl
  omega

theorem dropEmptyEnd_of_closed {xs : List String} (closed : ¬ [""] <:+ xs) :
    dropEmptyEnd xs = xs := by
  cases last : xs.getLast? with
  | none => rw [List.getLast?_eq_none_iff.1 last]; rfl
  | some s =>
    obtain ⟨front, rfl⟩ := List.getLast?_eq_some_iff.1 last
    have some' : ¬ s.isEmpty = true := by
      intro empty
      rw [String.isEmpty_iff] at empty
      exact closed ⟨front, by rw [empty]⟩
    rw [dropEmptyEnd, List.reverse_append, List.reverse_singleton, List.singleton_append,
      List.dropWhile_cons_of_neg some', List.reverse_cons, List.reverse_reverse]

theorem closed_iff {xs : List String} : ["", ""] <:+ xs ++ [""] ↔ [""] <:+ xs := by
  constructor
  · rintro ⟨front, same⟩
    have pair : front ++ [""] ++ [""] = xs ++ [""] := by rw [← same, List.append_assoc]; rfl
    exact ⟨front, List.append_cancel_right pair⟩
  · rintro ⟨front, rfl⟩
    exact ⟨front, by rw [List.append_assoc]; rfl⟩

/-! ## The margin in a segment -/

/-- The segments that do not stand for themselves. -/
def dots : List String :=
  ["..", ".%2e", ".%2E", "%2e.", "%2E.", "%2e%2e", "%2e%2E", "%2E%2e", "%2E%2E"] ++
    [".", "%2e", "%2E"]

theorem mem_dots {s : String} (dot : isDot s = true) : s ∈ dots := by
  rw [isDot, Bool.or_eq_true, isDoubleDot, isSingleDot, decide_eq_true_eq, decide_eq_true_eq] at dot
  exact List.mem_append.2 dot

/-- What is of the margin is encoded, and in no way that a dot is. -/
theorem encodeChar_margins :
    ∀ range ∈ Domain.margins, ∀ n ∈ List.range' range.1 (range.2 + 1 - range.1),
      Percent.encodeChar Percent.path (Char.ofNat n) ≠ [] ∧
        dots.all (fun dot =>
          !(Percent.encodeChar Percent.path (Char.ofNat n)).isSuffixOf dot.toList) = true := by
  decide +kernel

theorem encodeChar_of_margin {c : Char} (margin : isMargin c = true) :
    Percent.encodeChar Percent.path c ≠ [] ∧
      ∀ dot ∈ dots, ¬ Percent.encodeChar Percent.path c <:+ dot.toList := by
  obtain ⟨range, listed, within⟩ := List.any_eq_true.1 (Domain.holds_margins margin)
  have among : c.toNat ∈ List.range' range.1 (range.2 + 1 - range.1) := by
    rw [Bool.and_eq_true, decide_eq_true_eq, decide_eq_true_eq] at within
    rw [List.mem_range'_1]
    omega
  have facts := encodeChar_margins range listed c.toNat among
  rw [Char.ofNat_toNat, List.all_eq_true] at facts
  refine ⟨facts.1, fun dot mem suffix => ?_⟩
  have apart := facts.2 dot mem
  rw [List.isSuffixOf_iff_suffix.2 suffix] at apart
  cases apart

/-- A segment with something of the margin at its end stands for itself, and is longer than
without. -/
theorem encode_padded (cs : List Char) {pad : List Char} (some : pad ≠ [])
    (all : ∀ c ∈ pad, isMargin c = true) :
    isDot (Percent.encode Percent.path (cs ++ pad)) = false ∧
      (Percent.encode Percent.path cs).length <
        (Percent.encode Percent.path (cs ++ pad)).length := by
  obtain ⟨front, c, rfl⟩ : ∃ front c, pad = front ++ [c] :=
    ⟨pad.dropLast, pad.getLast some, (List.dropLast_concat_getLast some).symm⟩
  have mem : c ∈ front ++ [c] := List.mem_append_right front (List.mem_singleton_self c)
  obtain ⟨written, apart⟩ := encodeChar_of_margin (all c mem)
  obtain ⟨start, same⟩ : ∃ start, (Percent.encode Percent.path (cs ++ (front ++ [c]))).toList =
      (Percent.encode Percent.path cs).toList ++ start ++ Percent.encodeChar Percent.path c := by
    refine ⟨front.flatMap (Percent.encodeChar Percent.path), ?_⟩
    simp [Percent.encode]
  constructor
  · rw [Bool.eq_false_iff]
    intro dot
    exact apart _ (mem_dots dot) ⟨_, same.symm⟩
  · have long := List.length_pos_iff.2 written
    have lengths := congrArg List.length same
    rw [List.length_append, List.length_append, String.length_toList, String.length_toList]
      at lengths
    omega

/-! ## Appending to a path -/

/-- The segments of the path up to where more is appended to it. -/
def upTo (rest : List Char) : List String := ((passed rest).foldl push []).reverse

/-- A path that can be appended to a base: a slash, and characters that count. -/
structure Appendable (path : String) (segments : List String) : Prop where
  begins : ∃ more, path.toList = '/' :: more ∧ segmentsOf more = segments
  solid : ∀ c ∈ path.toList, isPadding c = false
  unmarked : Unmarked path.toList
  plain : ∀ s ∈ segments, isDot s = false

theorem appendable_of_all {path : String} {more : List Char} {segments : List String}
    (begins : path.toList = '/' :: more) (same : segmentsOf more = segments)
    (all : path.toList.all (fun c => !isPadding c && (c != '?' && c != '#')) = true)
    (plain : ∀ s ∈ segments, isDot s = false) : Appendable path segments := by
  have each (c : Char) (mem : c ∈ path.toList) : isPadding c = false ∧ c ≠ '?' ∧ c ≠ '#' := by
    simpa using List.all_eq_true.1 all c mem
  exact ⟨⟨more, begins, same⟩, fun c mem => (each c mem).1, fun c mem => (each c mem).2, plain⟩

theorem appendable_slash : Appendable "/" [""] :=
  appendable_of_all rfl rfl (by decide) (by decide)

/-- **The path of a call.** -/
theorem path_of_call {rest : List Char} {path : String} {segments : List String}
    (unmarked : Unmarked rest) (stops : Stops rest) (appendable : Appendable path segments) :
    pathAfterAuthority .special (rest ++ path.toList) = .segments (upTo rest ++ segments) := by
  obtain ⟨more, begins, same⟩ := appendable.begins
  rw [begins, path_append unmarked stops, same, resolve_of_plain appendable.plain]
  rfl

theorem segmentsOf_slashes (n : Nat) :
    segmentsOf (List.replicate n '/') = List.replicate (n + 1) "" := by
  induction n with
  | zero => rfl
  | succ n ih =>
    have step := segmentsOf_append [] (List.replicate n '/')
    rw [List.nil_append, ← List.replicate_succ, ih] at step
    exact step

theorem unmarked_slashes (n : Nat) : Unmarked (List.replicate n '/') := by
  intro c mem
  rw [List.eq_of_mem_replicate mem]
  exact ⟨by decide, by decide⟩

theorem exists_passed {rest : List Char} (some : rest ≠ []) :
    ∃ front last, passed rest = front ++ [last] := by
  obtain ⟨c, cs, rfl⟩ := List.exists_cons_of_ne_nil some
  obtain ⟨first, others, segments'⟩ := exists_segmentsOf cs
  have more : passed (c :: cs) ≠ [] := by
    rw [passed, segments']
    exact List.cons_ne_nil _ _
  exact ⟨_, _, (List.dropLast_concat_getLast more).symm⟩

/-- **The path of the channel.**  It is that of the base up to its last slashes, without the empty
segments at its end. -/
theorem path_of_channel {shorter : List Char} (unmarked : Unmarked shorter) (stops : Stops shorter)
    (n : Nat) {parts : List String}
    (path : pathAfterAuthority .special (shorter ++ List.replicate n '/') = .segments parts) :
    dropEmptyEnd parts = dropEmptyEnd (upTo shorter) := by
  cases n with
  | succ n =>
    rw [List.replicate_succ, path_append unmarked stops, segmentsOf_slashes] at path
    have plain : ∀ s ∈ List.replicate (n + 1) "", isDot s = false := by
      intro s mem
      rw [List.eq_of_mem_replicate mem]
      decide
    rw [resolve_of_plain plain] at path
    cases path
    refine dropEmptyEnd_append (fun s mem => ?_) (upTo shorter)
    rw [List.eq_of_mem_replicate mem]
    rfl
  | zero =>
    rw [List.replicate_zero, List.append_nil] at path
    by_cases some : shorter = []
    · subst some
      have root : pathAfterAuthority .special [] = .segments [""] := rfl
      rw [root] at path
      cases path
      rfl
    · rw [path_of_unmarked unmarked stops some] at path
      cases path
      obtain ⟨front, last, split⟩ := exists_passed some
      rw [upTo, split, resolve_append [] front (List.cons_ne_nil last []), resolve_singleton,
        List.foldl_append, List.foldl_cons, List.foldl_nil]
      refine dropEmptyEnd_append (fun s mem => ?_) _
      -- A dot segment at the end leaves an empty one.
      split at mem
      · rw [List.mem_singleton.1 mem]
        rfl
      · cases mem

/-- The channel of a server: what is behind the authority of the base gives it a path, and neither a
query nor a fragment. -/
theorem ofServer_followedBy {rest : List Char} {parts : List String}
    (path : pathAfterAuthority .special (Tail.of rest).path = .segments parts) (scheme ws : String)
    (a : Authority) :
    Channel.ofServer (followedBy scheme rest a) ws =
      ⟨ws, some a, .segments (dropEmptyEnd parts ++ ["ws", "status"]), none, none⟩ := by
  show Url.mk ws (some a) (Channel.pathBelow (pathAfterAuthority .special (Tail.of rest).path))
    none none = _
  rw [path]
  rfl

theorem size_push_le (up : List String) (s : String) : size (push up s) ≤ size (s :: up) := by
  have climbed : size (climb up) ≤ size up := by
    cases up with
    | nil => exact Nat.le_refl _
    | cons t up =>
      rw [climb]
      split
      · exact Nat.le_refl _
      · rw [size_cons]
        omega
  rw [size_cons, push]
  split
  · omega
  · split
    · omega
    · exact Nat.le_of_eq (size_cons s up)

/-- The path up to the end of a text that has something of the margin there: all but the last
segment is as it was, and that is no dot segment and longer. -/
theorem exists_upTo_padded {rest pad : List Char} (some : rest ≠ []) (some' : pad ≠ [])
    (all : ∀ c ∈ pad, isMargin c = true) :
    ∃ up short long, upTo rest = (push up short).reverse ∧
      upTo (rest ++ pad) = (long :: up).reverse ∧ short.length < long.length := by
  obtain ⟨c, cs, rfl⟩ := List.exists_cons_of_ne_nil some
  have inside : ∀ d ∈ pad, isSlash .special d = false := by
    intro d mem
    exact not_isSlash (endsAuthority_of_margin (all d mem))
  obtain ⟨front, last, cut', cut''⟩ := cut_append_of_inner cs inside
  obtain ⟨plain, longer⟩ := encode_padded last some' all
  generalize above : (front.map (Percent.encode Percent.path)).foldl push [] = up
  refine ⟨up, _, _, ?_, ?_, longer⟩
  · rw [upTo, passed, segmentsOf, cut', List.map_append, List.foldl_append, above]
    rfl
  · rw [upTo, List.cons_append, passed, segmentsOf, cut'', List.map_append, List.foldl_append,
      above]
    exact congrArg List.reverse (push_of_not_isDot plain up)

/-- **The margin behind a path makes it longer than the channel's**: the last segment is longer, and
no dot segment. -/
theorem lt_of_padded {rest pad : List Char} {parts : List String} (unmarked : Unmarked rest)
    (stops : Stops rest) (some : rest ≠ []) (some' : pad ≠ []) (all : ∀ c ∈ pad, isMargin c = true)
    (path : pathAfterAuthority .special rest = .segments parts) :
    size (dropEmptyEnd parts) < size (upTo (rest ++ pad)) := by
  have whole : rest ++ List.replicate 0 '/' = rest := List.append_nil rest
  rw [path_of_channel unmarked stops 0 (by rw [whole]; exact path)]
  obtain ⟨up, short, long, before, after, longer⟩ := exists_upTo_padded some some' all
  have dropped := size_dropEmptyEnd_le (upTo rest)
  have pushed := size_push_le up short
  rw [before, size_reverse] at dropped
  rw [after, size_reverse, before]
  rw [size_cons] at pushed ⊢
  omega

/-- A path with something of the margin at its end ends in no empty segment. -/
theorem dropEmptyEnd_padded {rest pad : List Char} (some : rest ≠ []) (some' : pad ≠ [])
    (all : ∀ c ∈ pad, isMargin c = true) :
    dropEmptyEnd (upTo (rest ++ pad)) = upTo (rest ++ pad) := by
  obtain ⟨up, short, long, -, after, longer⟩ := exists_upTo_padded some some' all
  refine dropEmptyEnd_of_closed ?_
  rintro ⟨front, same⟩
  rw [after, List.reverse_cons] at same
  have last : [""] = [long] := (List.append_inj' same rfl).2
  cases last
  exact absurd longer (Nat.not_lt_zero _)

end VoiceTicket.Url.Parser
