/-
  Numerals: the digits of a JSON number, and the number they stand for.

  1. **Program** — `Numeral.scan` splits a numeral into its parts; `Numeral.value` turns the parts
     into a number.

  2. **Specification** — a numeral without fraction and exponent is an integer as long as it fits
     64 bits, signed or unsigned.  All others are doubles: the leading digits that fit 64 bits are
     the significand, the digits after them only move the point, and the significand is scaled by
     one power of ten.  A value too large for a double is no number; one too small is zero.

  3. **Crux** — the significand is rounded once and scaled by a rounded power of ten, so the
     result may differ from the nearest double in its last bit.  Both steps are `Binary64`
     operations, which makes it reproducible.
-/
import VoiceTicket.Json.Basic

namespace VoiceTicket.Json

/-- The parts of a numeral as written; an exponent comes with whether it is negative. -/
structure Numeral where
  negative : Bool
  whole : List Nat
  fraction : Option (List Nat)
  exponent : Option (Bool × List Nat)

namespace Numeral

/-! ## Splitting a numeral -/

/-- The value of a decimal digit. -/
def digit? (c : Char) : Option Nat :=
  if '0' ≤ c ∧ c ≤ '9' then some (c.toNat - '0'.toNat) else none

/-- The digits at the front of a text, and the rest. -/
def digits : List Char → List Nat × List Char
  | [] => ([], [])
  | c :: cs =>
    match digit? c with
    | some d => let (ds, rest) := digits cs; (d :: ds, rest)
    | none => ([], c :: cs)

/-- The fraction at the front of a text, if a point stands there; a digit must follow the point. -/
def scanFraction : List Char → Option (Option (List Nat) × List Char)
  | '.' :: cs =>
    match digits cs with
    | ([], _) => none
    | (ds, rest) => some (some ds, rest)
  | cs => some (none, cs)

/-- The exponent at the front of a text, if an `e` stands there; a digit must follow its sign. -/
def scanExponent : List Char → Option (Option (Bool × List Nat) × List Char)
  | [] => some (none, [])
  | c :: cs =>
    if c = 'e' ∨ c = 'E' then
      let (negative, cs) := match cs with
        | '-' :: cs => (true, cs)
        | '+' :: cs => (false, cs)
        | cs => (false, cs)
      match digits cs with
      | ([], _) => none
      | (ds, rest) => some (some (negative, ds), rest)
    else some (none, c :: cs)

/-- The numeral at the front of a text, and the rest; a zero in front of digits is refused. -/
def scan (cs : List Char) : Option (Numeral × List Char) := do
  let (negative, cs) := match cs with
    | '-' :: cs => (true, cs)
    | cs => (false, cs)
  let (whole, cs) := digits cs
  match whole with
  | [] | 0 :: _ :: _ => none
  | _ =>
    let (fraction, cs) ← scanFraction cs
    let (exponent, cs) ← scanExponent cs
    some (⟨negative, whole, fraction, exponent⟩, cs)

/-! ## The value of a numeral -/

/-- The first natural number that needs more than 64 bits. -/
def wordLimit : Nat := 0x10000000000000000

/-- Appends digits to a significand while it fits 64 bits; the digits from the first one that does
not fit are counted instead. -/
def absorb (significand : Nat) : List Nat → Nat × Nat
  | [] => (significand, 0)
  | d :: ds =>
    if significand * 10 + d < wordLimit then absorb (significand * 10 + d) ds
    else (significand, ds.length + 1)

/-- The double nearest to a power of ten. -/
def powerOfTen (n : Nat) : Binary64 := Binary64.ofNat (Nat.pow 10 n)

/-- The greatest power of ten that is a double. -/
def greatestPower : Nat := 308

/-- The double `x / 10^n`, by at most two divisions: a third one leaves nothing of 64 bits. -/
def scaleDown (x : Binary64) (n : Nat) : Nat → Binary64
  | 0 => Binary64.zero false
  | fuel + 1 =>
    if n ≤ greatestPower then x.div (powerOfTen n)
    else scaleDown (x.div (powerOfTen greatestPower)) (n - greatestPower) fuel

/-- A significand times a power of ten as a double, unless it is too large. -/
def scale (significand : Nat) (exponent : Int) : Option Binary64 :=
  let x := Binary64.ofNat significand
  if significand = 0 then some x
  else if exponent < 0 then some (scaleDown x exponent.natAbs 3)
  else if greatestPower < exponent.toNat then none
  else
    let y := x.mul (powerOfTen exponent.toNat)
    if y.isFinite then some y else none

/-- The number that digits spell. -/
def ofDigits (ds : List Nat) : Nat := ds.foldl (fun n d => n * 10 + d) 0

/-- The greatest exponent that is computed with; one beyond it is as good as infinite. -/
def exponentLimit : Nat := 0x7FFFFFFF

/-- The significand, and the exponent that the digits of the number alone give it. -/
def mantissa (n : Numeral) : Nat × Int :=
  let (s, beyond) := absorb 0 n.whole
  match n.fraction with
  | none => (s, beyond)
  | some ds =>
    let (s, ignored) := absorb s ds
    (s, (beyond : Int) - (ds.length - ignored : Nat))

/-- The double that a numeral stands for, unless it is too large. -/
def toFloat (n : Numeral) : Option Binary64 := do
  let (s, place) := n.mantissa
  let magnitude ← match n.exponent with
    | none => scale s place
    | some (down, ds) =>
      let e := ofDigits ds
      if exponentLimit < e then if s = 0 || down then some (Binary64.zero false) else none
      else scale s (if down then place - e else place + e)
  some (if n.negative then magnitude.neg else magnitude)

/-- The number that a numeral stands for: an integer where it is written as one and fits. -/
def value (n : Numeral) : Option Number :=
  let s := ofDigits n.whole
  let integral := n.fraction.isNone && n.exponent.isNone
  if integral && !n.negative && s < wordLimit then some (.int s)
  else if integral && n.negative && s != 0 && s ≤ wordLimit / 2 then some (.int (-s))
  else n.toFloat.map .float

/-- The number that a whole text spells. -/
def number? (s : String) : Option Number :=
  match scan s.toList with
  | some (n, []) => n.value
  | _ => none

example : number? "-0" = some (.float ⟨0x8000000000000000⟩) := by decide
example : number? "01" = none ∧ number? "1." = none ∧ number? "1e" = none := by decide

end Numeral

end VoiceTicket.Json
