/-
  Blanks, and trimming them.

  People type blanks around what they mean, so every text that comes from a keyboard, a settings
  file or an environment variable is trimmed before it is looked at.

  1. **Program** — `trim s` drops the blanks at both ends of a text; `trimEnd p s` drops the
     characters of a class `p` at the end only (a server URL loses its last slashes that way).

  2. **Specification** — "blank" is the Unicode property White_Space (`isBlank`), a set larger than
     the ASCII blanks and smaller than "whatever prints as nothing": a no-break space and the next
     line control are in it, a zero width space and a byte order mark are not.

  3. **Crux** — trimming is one `dropWhile` from either end, so what is left neither starts nor
     ends with a blank, and trimming twice is trimming once (`trimChars_trimChars`).
-/

namespace VoiceTicket.Text

/-! ## The class of blanks -/

/-- The characters that have the Unicode property White_Space. -/
def isBlank (c : Char) : Bool :=
  let n := c.toNat
  (9 ≤ n && n ≤ 13) || n == 0x20 || n == 0x85 || n == 0xA0 || n == 0x1680 ||
    (0x2000 ≤ n && n ≤ 0x200A) || n == 0x2028 || n == 0x2029 || n == 0x202F || n == 0x205F ||
    n == 0x3000

/-! ## Trimming -/

/-- The list without the elements of a class that stand at its end. -/
def dropEndWhile (p : Char → Bool) (cs : List Char) : List Char :=
  (cs.reverse.dropWhile p).reverse

/-- The list without the blanks at either end. -/
def trimChars (cs : List Char) : List Char :=
  dropEndWhile isBlank (cs.dropWhile isBlank)

/-- The text without the blanks at either end. -/
def trim (s : String) : String :=
  String.ofList (trimChars s.toList)

/-- The text without the characters of a class that stand at its end. -/
def trimEnd (p : Char → Bool) (s : String) : String :=
  String.ofList (dropEndWhile p s.toList)

/-- A server URL is kept without the slashes at its end. -/
def trimEndSlashes (s : String) : String :=
  trimEnd (· == '/') s

/-- A text that says nothing: empty, or blanks only. -/
def isBlankText (s : String) : Bool :=
  (trim s).isEmpty

@[simp] theorem toList_trim (s : String) : (trim s).toList = trimChars s.toList := by
  simp [trim]

@[simp] theorem toList_trimEnd (p : Char → Bool) (s : String) :
    (trimEnd p s).toList = dropEndWhile p s.toList := by
  simp [trimEnd]

/-! ## What is left -/

/-- Dropping a class at the front twice drops no more than once. -/
theorem dropWhile_dropWhile (p : Char → Bool) (cs : List Char) :
    (cs.dropWhile p).dropWhile p = cs.dropWhile p := by
  induction cs with
  | nil => rfl
  | cons c cs ih => by_cases h : p c <;> simp [List.dropWhile, h, ih]

/-- Dropping a class at the end twice drops no more than once. -/
theorem dropEndWhile_dropEndWhile (p : Char → Bool) (cs : List Char) :
    dropEndWhile p (dropEndWhile p cs) = dropEndWhile p cs := by
  simp [dropEndWhile, dropWhile_dropWhile]

/-- A list that ends outside the class is left alone. -/
theorem dropEndWhile_append_singleton {p : Char → Bool} (cs : List Char) {c : Char}
    (h : p c = false) : dropEndWhile p (cs ++ [c]) = cs ++ [c] := by
  simp [dropEndWhile, h]

/-- What stands at the front is not reached if it is outside the class. -/
theorem dropEndWhile_cons {p : Char → Bool} {c : Char} (h : p c = false) (cs : List Char) :
    dropEndWhile p (c :: cs) = c :: dropEndWhile p cs := by
  rw [dropEndWhile, dropEndWhile, List.reverse_cons, List.dropWhile_append]
  cases cs.reverse.dropWhile p <;> simp [h]

theorem trimChars_trimChars (cs : List Char) : trimChars (trimChars cs) = trimChars cs := by
  rw [trimChars, trimChars]
  cases front : cs.dropWhile isBlank with
  | nil => rfl
  | cons c rest =>
    have solid : ¬ isBlank c = true := by
      have again := dropWhile_dropWhile isBlank cs
      intro blank
      rw [front, List.dropWhile_cons_of_pos blank] at again
      have shorter := (List.dropWhile_suffix isBlank (l := rest)).length_le
      rw [again, List.length_cons] at shorter
      omega
    rw [dropEndWhile_cons (Bool.eq_false_iff.2 solid), List.dropWhile_cons_of_neg solid,
      ← dropEndWhile_cons (Bool.eq_false_iff.2 solid), dropEndWhile_dropEndWhile]

/-- Trimming twice trims no more than once. -/
theorem trim_trim (s : String) : trim (trim s) = trim s := by
  rw [← String.toList_inj, toList_trim, toList_trim, trimChars_trimChars]

/-- A text that begins with anything but a blank says something. -/
theorem isBlankText_of_head {s : String} {c : Char} {cs : List Char} (begins : s.toList = c :: cs)
    (solid : isBlank c = false) : isBlankText s = false := by
  have left : (trim s).toList = c :: dropEndWhile isBlank cs := by
    rw [toList_trim, begins, trimChars, List.dropWhile_cons_of_neg (by simp [solid]),
      dropEndWhile_cons solid]
  cases blank : isBlankText s with
  | false => rfl
  | true =>
    rw [isBlankText, String.isEmpty_iff] at blank
    rw [blank] at left
    cases left

example : trim "  \u00a0a b\u3000\n" = "a b" := by decide
example : trim "\ufeffa" = "\ufeffa" := by decide

end VoiceTicket.Text
