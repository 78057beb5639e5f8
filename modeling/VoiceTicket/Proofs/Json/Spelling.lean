/-
  What a text spells.

  1. **Data** — `Spells r a cs`: a reader takes `a` off every text that begins with `cs`, whatever
     comes after, as long as that could not belong to a numeral.  `Lists r close xs cs`: `cs` is
     what stands between the brackets of an array or object whose items are `xs`.

  2. **Specification** — strings as they are quoted, integers of 64 bits as they are written, and
     the three words spell themselves (`spells_quote`, `spells_int`, `spells_true` and so on); items
     with commas between them and blanks around them spell an array or an object (`Lists.one`,
     `Lists.cons`, `Lists.array`, `Lists.object`).

  3. **Crux** — every statement leaves the rest of the text open, so that the pieces of a text can
     be put together in any way that the grammar allows; only a numeral has to know that what
     follows is no part of it (`Apart`).
-/
import VoiceTicket.Json.Printer

namespace VoiceTicket.Json

open Reader

/-! ## Blanks, and what may follow a numeral -/

/-- Blanks only. -/
def Blank (cs : List Char) : Prop := ∀ c ∈ cs, isSpace c = true

/-- What begins here is no part of a numeral that ends in front of it. -/
def Apart (cs : List Char) : Prop :=
  ∀ c ∈ cs.head?, Numeral.digit? c = none ∧ c ≠ '.' ∧ c ≠ 'e' ∧ c ≠ 'E'

theorem blank_nil : Blank [] := fun _ h => absurd h List.not_mem_nil

theorem skipSpace_append {ws : List Char} (blank : Blank ws) (cs : List Char) :
    skipSpace (ws ++ cs) = skipSpace cs := by
  induction ws with
  | nil => rfl
  | cons w ws ih =>
    have space : isSpace w = true := blank w List.mem_cons_self
    have rest : Blank ws := fun c h => blank c (List.mem_cons_of_mem w h)
    show (w :: (ws ++ cs)).dropWhile isSpace = cs.dropWhile isSpace
    rw [List.dropWhile_cons_of_pos space]
    exact ih rest

theorem skipSpace_cons {c : Char} (h : isSpace c = false) (cs : List Char) :
    skipSpace (c :: cs) = c :: cs :=
  List.dropWhile_cons_of_neg (by rw [h]; exact Bool.false_ne_true)

theorem apart_nil : Apart [] := fun _ h => by cases h

/-- The signs between the values of a text are no part of a numeral. -/
theorem apart_cons {c : Char} (sign : c = ',' ∨ c = ':' ∨ c = ']' ∨ c = '}') (cs : List Char) :
    Apart (c :: cs) := by
  intro d hd
  cases hd
  rcases sign with rfl | rfl | rfl | rfl <;> decide

theorem apart_of_blank {ws cs : List Char} (blank : Blank ws) (apart : Apart cs) :
    Apart (ws ++ cs) := by
  cases ws with
  | nil => exact apart
  | cons w ws =>
    intro d hd
    cases hd
    have space := blank w List.mem_cons_self
    simp only [isSpace, Bool.or_eq_true, beq_iff_eq] at space
    rcases space with ((rfl | rfl) | rfl) | rfl <;> decide

/-! ## Spelling -/

/-- A text spells a value for a reader: it begins with something that is neither a blank nor a
closing bracket, and the value is taken off the front of every text that begins with it. -/
structure Spells {α : Type} (r : Reader α) (a : α) (cs : List Char) : Prop where
  begins : ∃ c rest, cs = c :: rest ∧ isSpace c = false ∧ c ≠ ']' ∧ c ≠ '}'
  reads : ∀ rest, Apart rest → r (cs ++ rest) = some (a, rest)

theorem Spells.skipSpace_append {α : Type} {r : Reader α} {a : α} {cs : List Char}
    (h : Spells r a cs) (rest : List Char) : skipSpace (cs ++ rest) = cs ++ rest := by
  obtain ⟨c, more, rfl, space, _, _⟩ := h.begins
  exact skipSpace_cons space (more ++ rest)

/-! ## Strings -/

theorem hexDigit?_hexDigit : ∀ n < 16, hexDigit? (hexDigit n) = some n := by decide

/-- A control character is found again behind its escape. -/
theorem hex4_of_lt {n : Nat} (h : n < 32) :
    hex4 '0' '0' (hexDigit (n / 16)) (hexDigit (n % 16)) = some n := by
  have high := hexDigit?_hexDigit (n / 16) (by omega)
  have low := hexDigit?_hexDigit (n % 16) (by omega)
  have zero : hexDigit? '0' = some 0 := by decide
  simp only [hex4, high, low, zero, Option.bind_eq_bind, Option.bind_some, Option.pure_def]
  congr 1
  omega

/-- A character is found again in its written form. -/
theorem chars_escapeChar (c : Char) (rest : List Char) :
    chars (escapeChar c ++ rest) = push c (chars rest) := by
  -- Those that are written by a letter, one after the other.
  by_cases quote : c = '"'
  · subst quote; simp [escapeChar, chars, shortEscape?]
  by_cases backslash : c = '\\'
  · subst backslash; simp [escapeChar, chars, shortEscape?]
  by_cases newline : c = '\n'
  · subst newline; simp [escapeChar, chars, shortEscape?]
  by_cases carriage : c = '\r'
  · subst carriage; simp [escapeChar, chars, shortEscape?]
  by_cases tab : c = '\t'
  · subst tab; simp [escapeChar, chars, shortEscape?]
  by_cases backspace : c = '\x08'
  · subst backspace; simp [escapeChar, chars, shortEscape?]
  by_cases feed : c = '\x0c'
  · subst feed; simp [escapeChar, chars, shortEscape?]
  simp only [escapeChar, quote, backslash, newline, carriage, tab, backspace, feed, if_false]
  split
  · next control =>
    have small : c.toNat < 32 := control
    have digits := hex4_of_lt small
    have low : isLowSurrogate c.toNat = false := by simp [isLowSurrogate]; omega
    have high : isHighSurrogate c.toNat = false := by simp [isHighSurrogate]; omega
    simp [chars, digits, low, high]
  · next plain =>
    rw [List.singleton_append, chars]
    · simp [plain, backslash]
    · exact quote
    all_goals simp [backslash]

theorem chars_flatMap_escapeChar (cs rest : List Char) :
    chars (cs.flatMap escapeChar ++ '"' :: rest) = some (cs, rest) := by
  induction cs with
  | nil => rfl
  | cons c cs ih =>
    rw [List.flatMap_cons, List.append_assoc, chars_escapeChar, ih]
    rfl

theorem toList_quote (s : String) :
    (quote s).toList = '"' :: (s.toList.flatMap escapeChar ++ ['"']) := by
  simp [quote]

/-- **A string is read back.** -/
theorem spells_quote (s : String) : Spells string s (quote s).toList := by
  rw [toList_quote]
  refine ⟨⟨'"', _, rfl, by decide, by decide, by decide⟩, fun rest _ => ?_⟩
  have body := chars_flatMap_escapeChar s.toList rest
  simp only [List.cons_append, List.append_assoc, List.nil_append, string, body, Option.map_some,
    String.ofList_toList]

/-! ## Integers -/

theorem digit?_of_isDigit {c : Char} (h : c.isDigit = true) :
    Numeral.digit? c = some (c.toNat - '0'.toNat) := by
  simp only [Char.isDigit, Bool.and_eq_true, decide_eq_true_eq] at h
  exact if_pos h

/-- The digits at the front of a text are all taken. -/
theorem digits_append {cs : List Char} (digit : ∀ c ∈ cs, c.isDigit = true) {rest : List Char}
    (apart : Apart rest) :
    Numeral.digits (cs ++ rest) = (cs.map (fun c => c.toNat - '0'.toNat), rest) := by
  induction cs with
  | nil =>
    cases rest with
    | nil => rfl
    | cons c rest =>
      have none : Numeral.digit? c = .none := (apart c rfl).1
      simp [Numeral.digits, none]
  | cons c cs ih =>
    have first := digit?_of_isDigit (digit c List.mem_cons_self)
    have others := ih fun d h => digit d (List.mem_cons_of_mem c h)
    simp [Numeral.digits, first, others]

/-- The digits of a positive number, as numbers. -/
def digitsOf (n : Nat) : List Nat := (Nat.toDigits 10 n).map fun c => c.toNat - '0'.toNat

theorem ofDigits_digitsOf (n : Nat) : Numeral.ofDigits (digitsOf n) = n := by
  have spelled : Nat.ofDigitChars 10 (Nat.toDigits 10 n) 0 = n := Nat.ofDigitChars_ten_toDigits
  rw [Nat.ofDigitChars] at spelled
  simp only [Numeral.ofDigits, digitsOf, List.foldl_map, Nat.mul_comm _ 10]
  exact spelled

/-- Only zero is written with a zero in front. -/
theorem digitsOf_head {n : Nat} (pos : 0 < n) : ∃ d ds, digitsOf n = (d + 1) :: ds := by
  induction n using Nat.strongRecOn with
  | ind n ih =>
    -- The digits of a number from ten on begin with those of its tenth part.
    rcases Nat.lt_or_ge n 10 with small | large
    · have digit : n.digitChar.toNat - '0'.toNat = n := Nat.toNat_digitChar_sub_48_of_lt_ten small
      refine ⟨n - 1, [], ?_⟩
      rw [digitsOf, Nat.toDigits_of_lt_base small, List.map_singleton, digit]
      congr 1
      omega
    · obtain ⟨d, ds, front⟩ := ih (n / 10) (by omega) (by omega)
      refine ⟨d, ds ++ [(n % 10).digitChar.toNat - '0'.toNat], ?_⟩
      rw [digitsOf] at front ⊢
      rw [Nat.toDigits_of_base_le (by decide) large, List.map_append, front]
      rfl

theorem scanFraction_of_apart {rest : List Char} (apart : Apart rest) :
    Numeral.scanFraction rest = some (none, rest) := by
  cases rest with
  | nil => rfl
  | cons c rest =>
    have point : c ≠ '.' := (apart c rfl).2.1
    rw [Numeral.scanFraction]
    rintro cs h
    exact point (List.cons.inj h).1

theorem scanExponent_of_apart {rest : List Char} (apart : Apart rest) :
    Numeral.scanExponent rest = some (none, rest) := by
  cases rest with
  | nil => rfl
  | cons c rest =>
    have mark : ¬ (c = 'e' ∨ c = 'E') := by
      obtain ⟨_, _, small, capital⟩ := apart c rfl
      exact not_or_intro small capital
    simp only [Numeral.scanExponent, if_neg mark]

/-- A number has a digit, and only zero has one in front that is zero. -/
theorem digitsOf_cases (n : Nat) :
    digitsOf n = [0] ∨ ∃ d ds, digitsOf n = (d + 1) :: ds := by
  rcases Nat.eq_zero_or_pos n with rfl | pos
  · exact Or.inl (by decide)
  · exact Or.inr (digitsOf_head pos)

theorem digits_toDigits (n : Nat) {rest : List Char} (apart : Apart rest) :
    Numeral.digits (Nat.toDigits 10 n ++ rest) = (digitsOf n, rest) :=
  digits_append (fun _ h => Nat.isDigit_of_mem_toDigits (by decide) (by decide) h) apart

/-- A number begins with a digit. -/
theorem toDigits_head (n : Nat) : ∃ c cs, Nat.toDigits 10 n = c :: cs ∧ c.isDigit = true := by
  cases h : Nat.toDigits 10 n with
  | nil => exact absurd h Nat.toDigits_ne_nil
  | cons c cs =>
    refine ⟨c, cs, rfl, Nat.isDigit_of_mem_toDigits (b := 10) (n := n) (by decide) (by decide) ?_⟩
    rw [h]
    exact List.mem_cons_self

/-- The digits of a number are split off as they stand, with the sign in front of them. -/
theorem scan_toDigits (n : Nat) {rest : List Char} (apart : Apart rest) :
    Numeral.scan (Nat.toDigits 10 n ++ rest) = some (⟨false, digitsOf n, none, none⟩, rest) ∧
      Numeral.scan ('-' :: (Nat.toDigits 10 n ++ rest)) =
        some (⟨true, digitsOf n, none, none⟩, rest) := by
  have digits := digits_toDigits n apart
  have fraction := scanFraction_of_apart apart
  have exponent := scanExponent_of_apart apart
  obtain ⟨c, cs, front, digit⟩ := toDigits_head n
  have unsigned : c ≠ '-' := by
    rintro rfl
    exact absurd digit (by decide)
  rw [front, List.cons_append] at digits ⊢
  rcases digitsOf_cases n with zero | ⟨d, ds, many⟩
  · rw [zero] at digits ⊢
    simp [Numeral.scan, digits, fraction, exponent, unsigned]
  · rw [many] at digits ⊢
    simp [Numeral.scan, digits, fraction, exponent, unsigned]

/-- The integers that 64 bits can hold, signed or unsigned. -/
def FitsWord (i : Int) : Prop := -(Numeral.wordLimit / 2 : Nat) ≤ i ∧ i < Numeral.wordLimit

theorem value_of_fitsWord {n : Nat} (fits : n < Numeral.wordLimit) :
    (⟨false, digitsOf n, none, none⟩ : Numeral).value = some (.int n) := by
  simp [Numeral.value, ofDigits_digitsOf, fits]

theorem value_neg_of_fitsWord {n : Nat} (pos : 0 < n) (fits : n ≤ Numeral.wordLimit / 2) :
    (⟨true, digitsOf n, none, none⟩ : Numeral).value = some (.int (-n)) := by
  have nonzero : n ≠ 0 := by omega
  simp [Numeral.value, ofDigits_digitsOf, fits, nonzero]

/-- Where no quote, no letter of a word and no bracket stands, a numeral is expected. -/
theorem scalar_of_numeral {c : Char} (h : c.isDigit = true ∨ c = '-') {cs rest : List Char}
    {n : Numeral} {v : Number} (scan : Numeral.scan (c :: cs) = some (n, rest))
    (value : n.value = some v) : scalar (c :: cs) = some (.num v, rest) := by
  have other : c ≠ '"' ∧ c ≠ 'n' ∧ c ≠ 't' ∧ c ≠ 'f' := by
    refine ⟨?_, ?_, ?_, ?_⟩ <;> (rintro rfl; rcases h with h | h <;> revert h <;> decide)
  obtain ⟨quote, null, true', false'⟩ := other
  rw [scalar]
  · simp [scan, value]
  all_goals simp [quote, null, true', false']

/-! ## Values that are neither arrays nor objects -/

theorem value_eq_scalar (nesting : Nat) {c : Char} (array : c ≠ '[') (object : c ≠ '{')
    (cs : List Char) : value nesting (c :: cs) = scalar (c :: cs) := by
  cases nesting with
  | zero => rfl
  | succ nesting =>
    rw [value]
    all_goals simp [array, object]

theorem spells_null (nesting : Nat) : Spells (value nesting) .null "null".toList :=
  ⟨⟨'n', _, rfl, by decide, by decide, by decide⟩, fun rest _ =>
    value_eq_scalar nesting (by decide) (by decide) ('u' :: 'l' :: 'l' :: rest)⟩

theorem spells_true (nesting : Nat) : Spells (value nesting) (.bool true) "true".toList :=
  ⟨⟨'t', _, rfl, by decide, by decide, by decide⟩, fun rest _ =>
    value_eq_scalar nesting (by decide) (by decide) ('r' :: 'u' :: 'e' :: rest)⟩

theorem spells_false (nesting : Nat) : Spells (value nesting) (.bool false) "false".toList :=
  ⟨⟨'f', _, rfl, by decide, by decide, by decide⟩, fun rest _ =>
    value_eq_scalar nesting (by decide) (by decide) ('a' :: 'l' :: 's' :: 'e' :: rest)⟩

theorem spells_str (nesting : Nat) (s : String) :
    Spells (value nesting) (.str s) (quote s).toList := by
  have spelled := spells_quote s
  refine ⟨spelled.begins, fun rest apart => ?_⟩
  have read := spelled.reads rest apart
  rw [toList_quote, List.cons_append] at read ⊢
  rw [value_eq_scalar nesting (by decide) (by decide), scalar, read]
  rfl

/-- A digit is neither a blank nor a bracket. -/
theorem plain_of_isDigit {c : Char} (digit : c.isDigit = true) :
    isSpace c = false ∧ c ≠ ']' ∧ c ≠ '}' ∧ c ≠ '[' ∧ c ≠ '{' := by
  refine ⟨?_, ?_, ?_, ?_, ?_⟩
  · refine Bool.eq_false_iff.2 fun space => ?_
    simp only [isSpace, Bool.or_eq_true, beq_iff_eq] at space
    rcases space with ((rfl | rfl) | rfl) | rfl <;> exact absurd digit (by decide)
  all_goals (rintro rfl; exact absurd digit (by decide))

/-- **An integer of 64 bits is read back.** -/
theorem spells_int (nesting : Nat) {i : Int} (fits : FitsWord i) :
    Spells (value nesting) (.num (.int i)) (numberText (.int i)).toList := by
  obtain ⟨lower, upper⟩ := fits
  cases i with
  | ofNat n =>
    have text : (numberText (.int n)).toList = Nat.toDigits 10 n := Nat.toList_repr
    have small : n < Numeral.wordLimit := Int.ofNat_lt.1 upper
    obtain ⟨c, cs, front, digit⟩ := toDigits_head n
    obtain ⟨space, array, object, array', object'⟩ := plain_of_isDigit digit
    show Spells (value nesting) (.num (.int n)) (numberText (.int n)).toList
    rw [text]
    refine ⟨⟨c, cs, front, space, array, object⟩, fun rest apart => ?_⟩
    have scan := (scan_toDigits n apart).1
    rw [front, List.cons_append] at scan ⊢
    rw [value_eq_scalar nesting array' object']
    exact scalar_of_numeral (Or.inl digit) scan (value_of_fitsWord small)
  | negSucc n =>
    have text : (numberText (.int (Int.negSucc n))).toList = '-' :: Nat.toDigits 10 (n + 1) := by
      show ("-" ++ Nat.repr (n + 1)).toList = _
      rw [String.toList_append, Nat.toList_repr]
      rfl
    have small : n + 1 ≤ Numeral.wordLimit / 2 := by omega
    rw [text]
    refine ⟨⟨'-', _, rfl, by decide, by decide, by decide⟩, fun rest apart => ?_⟩
    have scan := (scan_toDigits (n + 1) apart).2
    rw [List.cons_append, value_eq_scalar nesting (by decide) (by decide)]
    exact scalar_of_numeral (Or.inr rfl) scan (value_neg_of_fitsWord (Nat.succ_pos n) small)

/-! ## Members -/

theorem colon_append {a b : List Char} (before : Blank a) (after : Blank b) {cs : List Char}
    (front : skipSpace cs = cs) : colon (a ++ ':' :: (b ++ cs)) = some cs := by
  have mark : skipSpace (a ++ ':' :: (b ++ cs)) = ':' :: (b ++ cs) := by
    rw [skipSpace_append before, skipSpace_cons (by decide)]
  rw [colon, mark]
  show some (skipSpace (b ++ cs)) = some cs
  rw [skipSpace_append after, front]

/-- A key, a colon with blanks around it, and a value. -/
theorem Spells.member {κ α : Type} {key : Reader κ} {r : Reader α} {k : κ} {v : α}
    {ks vs a b : List Char} (hk : Spells key k ks) (hv : Spells r v vs) (before : Blank a)
    (after : Blank b) : Spells (member key r) (k, v) (ks ++ (a ++ ':' :: (b ++ vs))) := by
  refine ⟨?_, fun rest apart => ?_⟩
  · obtain ⟨c, more, rfl, space, array, object⟩ := hk.begins
    exact ⟨c, _, rfl, space, array, object⟩
  · have mark : Apart (a ++ ':' :: (b ++ (vs ++ rest))) :=
      apart_of_blank before (apart_cons (by decide) _)
    have first := hk.reads _ mark
    have second := colon_append before after (hv.skipSpace_append rest)
    simp only [List.append_assoc, List.cons_append, Reader.member, first, second,
      Option.bind_eq_bind, Option.bind_some, hv.reads rest apart]

/-! ## Items -/

/-- A text between the brackets of an array or object lists its items. -/
structure Lists {α : Type} (item : Reader α) (close : Char) (xs : List α) (cs : List Char) :
    Prop where
  begins : ∃ c rest, skipSpace cs = c :: rest ∧ c ≠ ']' ∧ c ≠ '}'
  fits : xs.length ≤ (skipSpace cs).length
  reads : ∀ bound rest, xs.length ≤ bound →
    items item close bound (cs ++ close :: rest) = some (xs, rest)

variable {α : Type} {item : Reader α} {close : Char} {x : α} {xs : List α}
  {a b cs tail : List Char}

/-- One item, with blanks around it. -/
theorem Lists.one (spelled : Spells item x cs) (before : Blank a) (after : Blank b)
    (bracket : close = ']' ∨ close = '}') : Lists item close [x] (a ++ (cs ++ b)) := by
  have front (rest : List Char) : skipSpace (a ++ (cs ++ rest)) = cs ++ rest := by
    rw [skipSpace_append before, spelled.skipSpace_append]
  obtain ⟨c, more, begins, space, array, object⟩ := spelled.begins
  refine ⟨⟨c, more ++ b, ?_, array, object⟩, ?_, fun bound rest fits => ?_⟩
  · rw [front, begins, List.cons_append]
  · rw [front, begins]
    simp
  · have sign : Apart (close :: rest) := apart_cons (Or.inr (Or.inr bracket)) rest
    have solid : isSpace close = false := by rcases bracket with rfl | rfl <;> rfl
    have last : close ≠ ',' := by rcases bracket with rfl | rfl <;> decide
    cases bound with
    | zero => cases fits
    | succ bound =>
      have behind : skipSpace (b ++ close :: rest) = close :: rest := by
        rw [skipSpace_append after, skipSpace_cons solid]
      have read := spelled.reads (b ++ close :: rest) (apart_of_blank after sign)
      simp only [List.append_assoc, items, front, read, behind, Option.bind_eq_bind,
        Option.bind_some, if_neg last, if_true]

/-- An item in front of others. -/
theorem Lists.cons (spelled : Spells item x cs) (before : Blank a) (after : Blank b)
    (others : Lists item close xs tail) :
    Lists item close (x :: xs) (a ++ (cs ++ (b ++ ',' :: tail))) := by
  have front (rest : List Char) : skipSpace (a ++ (cs ++ rest)) = cs ++ rest := by
    rw [skipSpace_append before, spelled.skipSpace_append]
  obtain ⟨c, more, begins, space, array, object⟩ := spelled.begins
  refine ⟨⟨c, more ++ (b ++ ',' :: tail), ?_, array, object⟩, ?_, fun bound rest fits => ?_⟩
  · rw [front, begins, List.cons_append]
  · have few := others.fits
    have shorter : (skipSpace tail).length ≤ tail.length :=
      (List.dropWhile_suffix isSpace).length_le
    rw [front, begins]
    simp only [List.length_cons, List.length_append]
    omega
  · cases bound with
    | zero => cases fits
    | succ bound =>
      have behind : skipSpace (b ++ ',' :: (tail ++ close :: rest)) =
          ',' :: (tail ++ close :: rest) := by
        rw [skipSpace_append after, skipSpace_cons (by decide)]
      have sign : Apart (b ++ ',' :: (tail ++ close :: rest)) :=
        apart_of_blank after (apart_cons (Or.inl rfl) _)
      have read := spelled.reads _ sign
      have more := others.reads bound rest (Nat.le_of_succ_le_succ fits)
      simp only [List.append_assoc, List.cons_append, items, front, read, behind,
        Option.bind_eq_bind, Option.bind_some, if_true, more]

theorem items_skipSpace (bound : Nat) (cs : List Char) :
    items item close bound (skipSpace cs) = items item close bound cs := by
  have again : skipSpace (skipSpace cs) = skipSpace cs := by
    induction cs with
    | nil => rfl
    | cons c cs ih =>
      cases space : isSpace c with
      | true => simpa [skipSpace, space] using ih
      | false => rw [skipSpace_cons space, skipSpace_cons space]
  cases bound with
  | zero => rfl
  | succ bound => rw [items, items, again]

/-- What stands between the brackets is read, whatever comes after them. -/
theorem Lists.group (h : Lists item close xs cs) (bracket : close = ']' ∨ close = '}')
    (rest : List Char) : group item close (cs ++ close :: rest) = some (xs, rest) := by
  obtain ⟨c, more, begins, array, object⟩ := h.begins
  -- The first item does not begin with the bracket, so the brackets are not taken for empty.
  have front : skipSpace (cs ++ close :: rest) = c :: (more ++ close :: rest) := by
    have same : cs.dropWhile isSpace = c :: more := begins
    rw [skipSpace, List.dropWhile_append, same]
    rfl
  have open' : c ≠ close := by rcases bracket with rfl | rfl <;> assumption
  have enough : xs.length ≤ (more ++ close :: rest).length := by
    have few := h.fits
    rw [begins] at few
    simp only [List.length_cons, List.length_append] at few ⊢
    omega
  have read := h.reads _ rest enough
  rw [← items_skipSpace, front] at read
  simp only [Reader.group, front, if_neg open', read]

theorem group_nil (solid : isSpace close = false) (rest : List Char) :
    group item close (close :: rest) = some ([], rest) := by
  rw [Reader.group, skipSpace_cons solid]
  exact if_pos rfl

/-! ## Arrays and objects -/

theorem spells_arr_nil (nesting : Nat) :
    Spells (value (nesting + 1)) (.arr []) "[]".toList :=
  ⟨⟨'[', [']'], rfl, by decide, by decide, by decide⟩, fun rest _ => by
    have read : group (value nesting) ']' (']' :: rest) = some ([], rest) :=
      group_nil (by decide) rest
    show value (nesting + 1) ('[' :: ']' :: rest) = some (.arr [], rest)
    simp only [value, read, Option.map_some]⟩

theorem spells_obj_nil (nesting : Nat) :
    Spells (value (nesting + 1)) (.obj []) "\x7b\x7d".toList :=
  ⟨⟨'{', ['}'], rfl, by decide, by decide, by decide⟩, fun rest _ => by
    have read : group (member string (value nesting)) '}' ('}' :: rest) = some ([], rest) :=
      group_nil (by decide) rest
    show value (nesting + 1) ('{' :: '}' :: rest) = some (ofMembers [], rest)
    simp only [value, read, Option.map_some]⟩

/-- **Items between brackets spell an array.** -/
theorem Lists.array {nesting : Nat} {vs : List Json} (h : Lists (value nesting) ']' vs cs) :
    Spells (value (nesting + 1)) (.arr vs) ('[' :: (cs ++ [']'])) :=
  ⟨⟨'[', _, rfl, by decide, by decide, by decide⟩, fun rest _ => by
    have read := h.group (Or.inl rfl) rest
    simp only [List.cons_append, List.append_assoc, List.nil_append, value, read, Option.map_some]⟩

/-- **Members between braces spell an object**, with its keys in order and each of them once. -/
theorem Lists.object {nesting : Nat} {ms : List (String × Json)}
    (h : Lists (member string (value nesting)) '}' ms cs) :
    Spells (value (nesting + 1)) (ofMembers ms) ('{' :: (cs ++ ['}'])) :=
  ⟨⟨'{', _, rfl, by decide, by decide, by decide⟩, fun rest _ => by
    have read := h.group (Or.inr rfl) rest
    simp only [List.cons_append, List.append_assoc, List.nil_append, value, read, Option.map_some]⟩

/-! ## Whole texts -/

/-- A text that spells a value is parsed as that value. -/
theorem Spells.parse? {v : Json} {s : String} (h : Spells (value maxNesting) v s.toList) :
    parse? s = some v := by
  have front := h.skipSpace_append []
  have read := h.reads [] apart_nil
  rw [List.append_nil] at front read
  simp only [Json.parse?, front, read]
  rfl

end VoiceTicket.Json
