/-
  Punycode: any text as ASCII digits and letters.

  1. **Program** — `Punycode.encode` writes a text, `Punycode.decode?` reads one.

  2. **Specification** — the ASCII characters of the text come first, in order, with a hyphen behind
     them if there are any.  The others follow as steps of a walk: by increasing character, and for
     each from the front of the text on, how many (place, character) pairs are passed over.  A step
     is written in base 36, the lowest digit first, with a limit for each digit below which it is
     the last one; the limits follow the size of the steps (`adapt`).

  3. **Crux** — each loop uses up its own input: a step its value, a walk the characters that are
     left, a reading the digits that are left (`length_readStep`).
-/
import VoiceTicket.Url.Address

namespace VoiceTicket.Url.Domain.Punycode

/-- The digit of a value below 36. -/
def digit (n : Nat) : Char :=
  if n < 26 then Char.ofNat ('a'.toNat + n) else Char.ofNat ('0'.toNat + (n - 26))

/-- The value of a digit. -/
def value? (c : Char) : Option Nat :=
  if 'a' ≤ c ∧ c ≤ 'z' then some (c.toNat - 'a'.toNat)
  else if 'A' ≤ c ∧ c ≤ 'Z' then some (c.toNat - 'A'.toNat)
  else if '0' ≤ c ∧ c ≤ '9' then some (c.toNat - '0'.toNat + 26)
  else none

/-- The limit for a digit at some weight below which it is the last one. -/
def limit (bias weight : Nat) : Nat := min 26 (max 1 (weight - bias))

/-- How often a step is divided until it is small, 36 for each time, and what is left of it. -/
def shrink (step : Nat) : Nat × Nat :=
  if 455 < step then
    let (bias, rest) := shrink (step / 35)
    (bias + 36, rest)
  else (0, step)

/-- The bias after a step, with so many characters in place. -/
def adapt (step count : Nat) (first : Bool) : Nat :=
  let step := if first then step / 700 else step / 2
  let (bias, rest) := shrink (step + step / count)
  bias + 36 * rest / (rest + 38)

/-! ## Writing -/

theorem limit_pos (bias weight : Nat) : 1 ≤ limit bias weight := by unfold limit; omega

/-- The digits of a step, from some weight on. -/
def stepDigits (bias weight step : Nat) : List Char :=
  let t := limit bias weight
  if step < t then [digit step]
  else digit (t + (step - t) % (36 - t)) :: stepDigits bias (weight + 36) ((step - t) / (36 - t))
termination_by step
decreasing_by
  have := limit_pos bias weight
  exact Nat.lt_of_le_of_lt (Nat.div_le_self _ _) (by omega)

/-- How far a walk has come: the step so far, the bias, the characters in place, and the digits. -/
structure Walk where
  step : Nat
  bias : Nat
  count : Nat
  written : List Char

/-- Passes over one character of the text, or places it if it is the one in turn. -/
def Walk.pass (basic turn : Nat) (w : Walk) (c : Char) : Walk :=
  if c.toNat < turn then { w with step := w.step + 1 }
  else if c.toNat = turn then
    ⟨0, adapt w.step (w.count + 1) (w.count == basic), w.count + 1,
      w.written ++ stepDigits w.bias 36 w.step⟩
  else w

/-- Walks through the text for each character in turn. -/
def Walk.through (text : List Char) (basic : Nat) : Nat → List Nat → Walk → Walk
  | _, [], w => w
  | next, turn :: rest, w =>
    let w := text.foldl (Walk.pass basic turn)
      { w with step := w.step + (turn - next) * (w.count + 1) }
    through text basic (turn + 1) rest { w with step := w.step + 1 }

/-- Whether a character is an ASCII character. -/
def isBasic (c : Char) : Bool := c.toNat < 0x80

/-- Adds a number to some in increasing order, unless it is among them. -/
def insertTurn (n : Nat) : List Nat → List Nat
  | [] => [n]
  | m :: ms => if n < m then n :: m :: ms else if n = m then m :: ms else m :: insertTurn n ms

/-- The characters of a text that are no ASCII characters, in increasing order and once each. -/
def turns (text : List Char) : List Nat :=
  (text.filter fun c => !isBasic c).foldr (fun c => insertTurn c.toNat) []

/-- The written form of a text. -/
def encode (text : List Char) : List Char :=
  let basic := text.filter isBasic
  let walk := Walk.through text basic.length 0x80 (turns text) ⟨0, 72, basic.length, []⟩
  (if basic.isEmpty then [] else basic ++ ['-']) ++ walk.written

/-! ## Reading -/

/-- Reads the digits of a step, from some weight on: the step, with `unit` for the value of the
digit in turn, and the digits behind it. -/
def readStep (bias : Nat) : List Char → (weight unit step : Nat) → Option (Nat × List Char)
  | [], _, _, _ => none
  | c :: cs, weight, unit, step => do
    let d ← value? c
    let t := limit bias weight
    if d < t then some (step + d * unit, cs)
    else readStep bias cs (weight + 36) (unit * (36 - t)) (step + d * unit)

/-- Reading a step uses up digits. -/
theorem length_readStep {bias : Nat} {cs : List Char} {weight unit step : Nat}
    {r : Nat × List Char} (h : readStep bias cs weight unit step = some r) :
    r.2.length < cs.length := by
  induction cs generalizing weight unit step with
  | nil => simp [readStep] at h
  | cons c cs ih =>
    rw [readStep] at h
    obtain ⟨d, -, h⟩ := Option.bind_eq_some_iff.1 h
    dsimp only at h
    split at h
    · cases h; simp
    · exact Nat.lt_succ_of_lt (ih h)

/-- Places the characters that the digits spell: the next is `least` or above, and stands at
`spot` or behind it if it is `least` itself. -/
def place (bias least spot : Nat) (text digits : List Char) : Option (List Char) :=
  if digits.isEmpty then some text
  else match h : readStep bias digits 36 1 0 with
    | none => none
    | some (step, rest) =>
      let count := text.length + 1
      let c := least + (spot + step) / count
      let here := (spot + step) % count
      if c < 0xD800 ∨ (0xDFFF < c ∧ c < 0x110000) then
        place (adapt step count (spot == 0)) c (here + 1) (text.insertIdx here (Char.ofNat c)) rest
      else none
termination_by digits.length
decreasing_by exact length_readStep h

/-- The ASCII characters of a written form, and the digits behind them; a hyphen at the very front
is no separator. -/
def split (cs : List Char) : List Char × List Char :=
  let digits := (cs.reverse.takeWhile (· ≠ '-')).reverse
  match cs.take (cs.length - digits.length - 1) with
  | [] => ([], cs)
  | basic => (basic, digits)

/-- The text of a written form. -/
def decode? (cs : List Char) : Option (List Char) :=
  let (basic, digits) := split cs
  place 72 0x80 0 basic digits

example : encode "münchen".toList = "mnchen-3ya".toList := by decide +kernel
example : decode? "mnchen-3ya".toList = some "münchen".toList := by decide +kernel

end VoiceTicket.Url.Domain.Punycode
