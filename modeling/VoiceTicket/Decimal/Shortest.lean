/-
  The shortest decimal form of a double.

  1. **Program** — `shortest x` is a pair `(digits, point)`: the magnitude of `x` is nearest to
     `0.d₁d₂…dₙ · 10^point`, with as few digits as still read back as `x`.

  2. **Specification** — the decimals that read back as `x` fill an interval around it, half way
     to either neighbour; its ends count when the significand is even, since ties go to even.  Of
     the grids `10^k`, coarsest first, the first with a point in the interval is taken, and of two
     points in it the nearer one.

  3. **Crux** — if any point of a grid lies in the interval, one of the two that enclose `x` does.
     So two candidates per grid are enough, and seventeen grids are enough.
-/
import VoiceTicket.Binary64

namespace VoiceTicket.Decimal

/-! ## The interval that reads back -/

/-- The magnitudes between `lo / den` and `hi / den` round to `mid / den`; the ends are among them
when `closed`. -/
structure Interval where
  lo : Nat
  mid : Nat
  hi : Nat
  den : Nat
  closed : Bool

/-- The magnitudes that round to a finite, nonzero double. -/
def Interval.of (x : Binary64) : Interval :=
  let m := x.significand
  -- A power of two has a lower neighbour at half the distance of the upper one.
  let narrow := x.fraction == 0 && x.biased > 1
  let lo := if narrow then 4 * m - 1 else 4 * m - 2
  let scale := x.exponent - 2
  let up := Nat.pow 2 scale.toNat
  let down := Nat.pow 2 (-scale).toNat
  ⟨lo * up, 4 * m * up, (4 * m + 2) * up, down, m % 2 == 0⟩

/-- Whether `num / den` lies in the interval. -/
def Interval.holds (i : Interval) (num den : Nat) : Bool :=
  if i.closed then i.lo * den ≤ num * i.den && num * i.den ≤ i.hi * den
  else i.lo * den < num * i.den && num * i.den < i.hi * den

/-- The unit `10^k` as a quotient of naturals. -/
def unit (k : Int) : Nat × Nat := (Nat.pow 10 k.toNat, Nat.pow 10 (-k).toNat)

/-- The point of the grid `10^k` that reads back as the middle and is nearest to it, as a multiple
of the unit; of two that are as near, the even one. -/
def Interval.onGrid (i : Interval) (k : Int) : Option Nat :=
  let (un, ud) := unit k
  let below := i.mid * ud / (i.den * un)
  let above := below + 1
  let fits (c : Nat) : Bool := c != 0 && i.holds (c * un) ud
  -- Distances to the middle, both over the same denominator.
  let down := i.mid * ud - below * un * i.den
  let up := above * un * i.den - i.mid * ud
  match fits below, fits above with
  | true, true =>
    if down < up then some below else if up < down then some above
    else if below % 2 = 0 then some below else some above
  | true, false => some below
  | false, true => some above
  | false, false => none

/-! ## Digits -/

/-- How many digits a natural number has, where `limit` is an upper bound. -/
def digitCount (limit n : Nat) : Nat :=
  ((List.range limit).find? fun d => n < Nat.pow 10 d).getD limit

/-- The number of digits in front of the point of `num / den`, not positive below one tenth. -/
def pointOf (num den : Nat) : Int :=
  if den ≤ num then (digitCount 310 (num / den) : Int)
  else
    1 - ((List.range 330).find? fun d => den ≤ num * Nat.pow 10 d).getD 330

/-- The first of some grids with a point that reads back, and that point. -/
def Interval.search (i : Interval) (point : Int) : List Nat → Option (Nat × Int)
  | [] => none
  | n :: ns =>
    let k := point - (n : Int)
    match i.onGrid k with
    | some c => some (c, k)
    | none => i.search point ns

/-- The digits of a natural number without the zeros at its end, and how many those were. -/
def stripZeros : Nat → Nat → Nat × Nat
  | 0, n => (n, 0)
  | fuel + 1, n =>
    if n % 10 = 0 && n != 0 then
      let (m, z) := stripZeros fuel (n / 10)
      (m, z + 1)
    else (n, 0)

/-- The shortest digits of a finite, nonzero double, and the place of the point in front of which
they stand: `(digits, point)` means `0.digits · 10^point`. -/
def shortest (x : Binary64) : List Char × Int :=
  let i := Interval.of x
  let point := pointOf i.mid i.den
  let (c, k) := (i.search point (List.range' 1 17)).getD (i.mid / i.den, 0)
  let (c, zeros) := stripZeros 20 c
  let digits := (toString c).toList
  (digits, k + zeros + digits.length)

/-! ## The layout of a number -/

/-- A number is written with its point in place while the exponent of its first digit is in this
range, and with an exponent outside of it. -/
structure Layout where
  least : Int
  greatest : Int

/-- The layout of numbers on the wire. -/
def Layout.wire : Layout := ⟨-5, 15⟩

/-- An exponent is written with its sign. -/
def exponentText (e : Int) : String :=
  if e < 0 then "e-" ++ toString e.natAbs else "e+" ++ toString e.natAbs

/-- The digits with the point in its place; a number without a fraction keeps a zero behind it. -/
def Layout.digitsText (layout : Layout) (digits : List Char) (point : Int) : String :=
  let lead := point - 1
  let n := digits.length
  if lead < layout.least || layout.greatest < lead then
    let fraction := digits.drop 1
    String.ofList (digits.take 1 ++ if fraction.isEmpty then [] else '.' :: fraction)
      ++ exponentText lead
  else if point ≤ 0 then
    "0." ++ String.ofList (List.replicate (-point).toNat '0' ++ digits)
  else if n ≤ point.toNat then
    String.ofList (digits ++ List.replicate (point.toNat - n) '0') ++ ".0"
  else
    String.ofList (digits.take point.toNat ++ '.' :: digits.drop point.toNat)

/-- The text of a finite double: the fewest digits that read back, a sign in front of a negative
one and of the negative zero. -/
def text (layout : Layout) (x : Binary64) : String :=
  let sign := if x.negative then "-" else ""
  if x.isZero then sign ++ "0.0"
  else
    let (digits, point) := shortest x
    sign ++ layout.digitsText digits point

example : text .wire (Binary64.ofNat 10000000000000000) = "1e+16" := by decide +kernel
example : text .wire (Binary64.ofRatio true 1 100000) = "-0.00001" := by decide +kernel

end VoiceTicket.Decimal
