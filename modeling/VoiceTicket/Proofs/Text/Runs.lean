/-
  Runs of characters at the front of a text, and at its end.

  1. **Data** — a text and a class of characters: `takeWhile` is the run of them that the text
     begins with, `dropWhile` is what follows; `dropEndWhile` is what stands in front of the run
     that it ends with.

  2. **Specification** — a text that is cut in two, into characters of the class and something that
     does not begin with one, is cut where the run ends (`span_append`), and likewise at the end
     (`dropEndWhile_split`, `getLast?_dropEndWhile`).

  3. **Crux** — where two cuts of one text are compared, it is the last character outside the class
     that says which of them lies further in front (`exists_of_append_eq`).
-/
import VoiceTicket.Text.Blank

namespace VoiceTicket.Text

/-! ## Where a run of characters ends -/

theorem span_append {p : Char → Bool} {xs ys : List Char} (inner : ∀ c ∈ xs, p c = true)
    (stops : ∀ c ∈ ys.head?, p c = false) :
    (xs ++ ys).takeWhile p = xs ∧ (xs ++ ys).dropWhile p = ys := by
  rw [List.takeWhile_append_of_pos inner, List.dropWhile_append_of_pos inner]
  cases ys with
  | nil => exact ⟨List.append_nil xs, rfl⟩
  | cons c ys =>
    have outer : ¬ p c = true := by
      rw [stops c rfl]
      exact Bool.false_ne_true
    rw [List.takeWhile_cons_of_neg outer, List.dropWhile_cons_of_neg outer, List.append_nil]
    exact ⟨rfl, rfl⟩

theorem of_mem_takeWhile {p : Char → Bool} {cs : List Char} {c : Char} (mem : c ∈ cs.takeWhile p) :
    p c = true :=
  List.all_eq_true.1 List.all_takeWhile c mem

theorem dropWhile_eq_nil {p : Char → Bool} {cs : List Char} (all : ∀ c ∈ cs, p c = true) :
    cs.dropWhile p = [] := by
  have dropped : (cs ++ []).dropWhile p = [].dropWhile p := List.dropWhile_append_of_pos all
  rw [List.append_nil] at dropped
  exact dropped

/-- What is outside a class is not dropped with it. -/
theorem mem_dropWhile {p : Char → Bool} {cs : List Char} {c : Char} (outer : p c = false) :
    c ∈ cs.dropWhile p ↔ c ∈ cs := by
  refine ⟨fun mem => List.dropWhile_subset p mem, fun mem => ?_⟩
  rw [← List.takeWhile_append_dropWhile (p := p) (l := cs), List.mem_append] at mem
  rcases mem with front | behind
  · rw [of_mem_takeWhile front] at outer
    cases outer
  · exact behind

theorem head?_dropWhile {p : Char → Bool} (cs : List Char) :
    ∀ c ∈ (cs.dropWhile p).head?, p c = false := by
  intro c mem
  have outer := List.head?_dropWhile_not p cs
  rw [mem] at outer
  simpa using outer

theorem dropWhile_of_head? {p : Char → Bool} {cs : List Char}
    (solid : ∀ c ∈ cs.head?, p c = false) : cs.dropWhile p = cs := by
  cases cs with
  | nil => rfl
  | cons c cs => exact List.dropWhile_cons_of_neg (Bool.eq_false_iff.1 (solid c rfl))

/-! ## Ends of texts -/

theorem mem_dropEndWhile {p : Char → Bool} {cs : List Char} {c : Char} (outer : p c = false) :
    c ∈ dropEndWhile p cs ↔ c ∈ cs := by
  rw [dropEndWhile, List.mem_reverse, mem_dropWhile outer, List.mem_reverse]

/-- A text is what is left of it and what was dropped at its end. -/
theorem dropEndWhile_split (p : Char → Bool) (cs : List Char) :
    ∃ end', cs = dropEndWhile p cs ++ end' ∧ (∀ c ∈ end', p c = true) := by
  refine ⟨(cs.reverse.takeWhile p).reverse, ?_, ?_⟩
  · rw [dropEndWhile, ← List.reverse_append, List.takeWhile_append_dropWhile,
      List.reverse_reverse]
  · intro c mem
    exact of_mem_takeWhile (List.mem_reverse.1 mem)

/-- A text whose last character is outside the class is left alone. -/
theorem dropEndWhile_append {p : Char → Bool} (cs : List Char) {rest : List Char} {c : Char}
    (last : rest.getLast? = some c) (solid : p c = false) :
    dropEndWhile p (cs ++ rest) = cs ++ rest := by
  obtain ⟨front, rfl⟩ := List.getLast?_eq_some_iff.1 last
  rw [← List.append_assoc, dropEndWhile_append_singleton _ solid]

theorem dropEndWhile_append_of_all {p : Char → Bool} {cs rest : List Char}
    (all : ∀ c ∈ rest, p c = true) : dropEndWhile p (cs ++ rest) = dropEndWhile p cs := by
  rw [dropEndWhile, List.reverse_append, List.dropWhile_append_of_pos]
  · rfl
  · exact fun c mem => all c (List.mem_reverse.1 mem)

/-- Where something is left of the end of a text, the rest is not reached. -/
theorem dropEndWhile_append_of_some {p : Char → Bool} {rest : List Char}
    (some : dropEndWhile p rest ≠ []) (cs : List Char) :
    dropEndWhile p (cs ++ rest) = cs ++ dropEndWhile p rest := by
  have left : ¬ (rest.reverse.dropWhile p).isEmpty = true := by
    intro gone
    exact some (congrArg List.reverse (List.isEmpty_iff.1 gone))
  rw [dropEndWhile, List.reverse_append, List.dropWhile_append, if_neg left,
    List.reverse_append, List.reverse_reverse]
  rfl

theorem dropEndWhile_append_cons {p : Char → Bool} {c : Char} (solid : p c = false)
    (cs rest : List Char) :
    dropEndWhile p (cs ++ c :: rest) = cs ++ c :: dropEndWhile p rest := by
  have behind : dropEndWhile p (c :: rest) = c :: dropEndWhile p rest :=
    dropEndWhile_cons solid rest
  rw [dropEndWhile_append_of_some (by rw [behind]; exact List.cons_ne_nil _ _), behind]

theorem getLast?_dropEndWhile (p : Char → Bool) (cs : List Char) :
    ∀ c ∈ (dropEndWhile p cs).getLast?, p c = false := by
  rw [dropEndWhile, List.getLast?_reverse]
  exact head?_dropWhile cs.reverse

theorem dropEndWhile_eq_self_iff {p : Char → Bool} {cs : List Char} :
    dropEndWhile p cs = cs ↔ ∀ c ∈ cs.getLast?, p c = false := by
  constructor
  · intro same
    rw [← same]
    exact getLast?_dropEndWhile p cs
  · intro solid
    cases last : cs.getLast? with
    | none => rw [List.getLast?_eq_none_iff.1 last]; rfl
    | some c =>
      obtain ⟨start, rfl⟩ := List.getLast?_eq_some_iff.1 last
      exact dropEndWhile_append_singleton start (solid c last)

/-- Where dropping two classes at the end leaves a text alone, dropping the first of them does. -/
theorem dropEndWhile_of_dropEndWhile {p q : Char → Bool} {cs : List Char}
    (same : dropEndWhile p (dropEndWhile q cs) = cs) : dropEndWhile q cs = cs := by
  obtain ⟨dropped, whole, _⟩ := dropEndWhile_split q cs
  obtain ⟨dropped', whole', _⟩ := dropEndWhile_split p (dropEndWhile q cs)
  rw [same] at whole'
  have longer := congrArg List.length whole
  have shorter := congrArg List.length whole'
  rw [List.length_append] at longer shorter
  have none' : dropped' = [] := List.length_eq_zero_iff.1 (by omega)
  rw [whole', none', List.append_nil]

/-- What is left of a text begins as the text does. -/
theorem head?_of_append {cs front rest : List Char} (whole : cs = front ++ rest) :
    ∀ c ∈ front.head?, c ∈ cs.head? := by
  intro c mem
  rw [whole, List.head?_append, mem, Option.some_or]
  exact rfl

theorem head?_dropEndWhile (p : Char → Bool) (cs : List Char) :
    ∀ c ∈ (dropEndWhile p cs).head?, c ∈ cs.head? := by
  obtain ⟨end', whole, _⟩ := dropEndWhile_split p cs
  exact head?_of_append whole

theorem head?_trimChars (cs : List Char) : ∀ c ∈ (trimChars cs).head?, isBlank c = false :=
  fun c mem => head?_dropWhile cs c (head?_dropEndWhile isBlank _ c mem)

theorem getLast?_trimChars (cs : List Char) : ∀ c ∈ (trimChars cs).getLast?, isBlank c = false :=
  getLast?_dropEndWhile isBlank _

theorem mem_trimChars {cs : List Char} {c : Char} (visible : isBlank c = false) :
    c ∈ trimChars cs ↔ c ∈ cs := by
  rw [trimChars, mem_dropEndWhile visible, mem_dropWhile visible]

/-- A text that was trimmed and has lost its last slashes has no blanks at its front. -/
theorem trimChars_dropEndWhile (p : Char → Bool) (cs : List Char) :
    trimChars (dropEndWhile p (trimChars cs)) =
      dropEndWhile isBlank (dropEndWhile p (trimChars cs)) := by
  have solid : ∀ c ∈ (dropEndWhile p (trimChars cs)).head?, isBlank c = false :=
    fun c mem => head?_trimChars cs c (head?_dropEndWhile p _ c mem)
  rw [trimChars, dropWhile_of_head? solid]

/-- Where a text ends in characters of a class, another end of it that lies outside the class lies
in front of these. -/
theorem exists_of_append_eq {p : Char → Bool} {xs ys zs ws : List Char} {c : Char}
    (same : xs ++ ys = zs ++ ws) (last : xs.getLast? = some c) (outer : p c = false)
    (all : ∀ d ∈ ws, p d = true) : ∃ mid, zs = xs ++ mid ∧ ys = mid ++ ws := by
  rcases List.append_eq_append_iff.1 same with ⟨mid, whole, rest⟩ | ⟨excess, whole, rest⟩
  · exact ⟨mid, whole, rest⟩
  · cases excess with
    | nil =>
      rw [List.append_nil] at whole
      rw [List.nil_append] at rest
      exact ⟨[], by rw [whole, List.append_nil], rest.symm⟩
    | cons d ds =>
      have within : c ∈ d :: ds := by
        rw [whole, List.getLast?_append, List.getLast?_cons, Option.some_or,
          ← List.getLast?_cons] at last
        exact List.mem_of_getLast? last
      rw [all c (by rw [rest]; exact List.mem_append_left ys within)] at outer
      cases outer

/-- Blanks around a text go with those that it has at its ends. -/
theorem trim_surrounded {front behind : List Char} (blank : ∀ c ∈ front, isBlank c = true)
    (blank' : ∀ c ∈ behind, isBlank c = true) (base : String) :
    trim (String.ofList (front ++ base.toList ++ behind)) = trim base := by
  rw [← String.toList_inj, toList_trim, toList_trim, String.toList_ofList, trimChars,
    trimChars, List.append_assoc, List.dropWhile_append_of_pos blank, List.dropWhile_append]
  split
  · next gone =>
    rw [List.isEmpty_iff.1 gone, dropWhile_eq_nil blank']
  · exact dropEndWhile_append_of_all blank'

end VoiceTicket.Text
