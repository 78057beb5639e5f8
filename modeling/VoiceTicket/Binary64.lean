/-
  Double precision numbers, computed exactly.

  A number of the wire format with a fraction, an exponent or too many digits is a double, and so
  is the share of the jitter that a retry waits.  What is observable of them is their bits and
  their shortest decimal form, so they are kept as bits and computed with in `Nat`.

  1. **Program** — `Binary64` is its 64 bits.  A finite one is `± m · 2^q` (`significand`,
     `exponent`); `ofRatio` rounds a quotient of two naturals to the nearest double, ties to the
     even significand; sum, product and quotient are the exact result, rounded by `ofRatio`.

  2. **Specification** — the basic operations of IEEE 754: the exact result, rounded once.

  3. **Crux** — the bits of a finite double read as a number are its rank among the nonnegative
     doubles, so a significand that rounding carries over to `2^53` needs no case of its own:
     `(e + 1074) · 2^52 + significand` is the right bit pattern for normal numbers, for subnormal
     ones and for the carry between them.
-/

namespace VoiceTicket

/-- An IEEE 754 double, as its bits. -/
structure Binary64 where
  bits : UInt64
deriving DecidableEq, Repr, Inhabited

namespace Binary64

/-! ## Reading the bits -/

/-- The weight of the sign bit, `2^63`. -/
def signWeight : Nat := 0x8000000000000000

/-- The weight of the last bit of the exponent, `2^52`. -/
def exponentWeight : Nat := 0x10000000000000

/-- The sign bit. -/
def negative (x : Binary64) : Bool := x.bits.toNat / signWeight == 1

/-- The eleven bits of the biased exponent. -/
def biased (x : Binary64) : Nat := x.bits.toNat / exponentWeight % 0x800

/-- The fifty-two stored bits of the fraction. -/
def fraction (x : Binary64) : Nat := x.bits.toNat % exponentWeight

/-- Neither infinite nor not a number. -/
def isFinite (x : Binary64) : Bool := x.biased != 2047

/-- The integral significand `m` of a finite `± m · 2^q`. -/
def significand (x : Binary64) : Nat :=
  if x.biased = 0 then x.fraction else exponentWeight + x.fraction

/-- The exponent `q` of a finite `± m · 2^q`. -/
def exponent (x : Binary64) : Int :=
  if x.biased = 0 then -1074 else (x.biased : Int) - 1075

/-- Zero of either sign. -/
def isZero (x : Binary64) : Bool := x.isFinite && x.significand == 0

/-- The magnitude of a finite double as a quotient of naturals. -/
def ratio (x : Binary64) : Nat × Nat :=
  if 0 ≤ x.exponent then (x.significand * Nat.pow 2 x.exponent.toNat, 1)
  else (x.significand, Nat.pow 2 (-x.exponent).toNat)

/-! ## Rounding -/

/-- The quotient rounded to the nearest natural, a tie to the even one. -/
def divideToEven (num den : Nat) : Nat :=
  let q := num / den
  let twice := 2 * (num % den)
  if twice < den then q
  else if den < twice then q + 1
  else if q % 2 = 0 then q else q + 1

/-- The bits of a double with a sign and a magnitude. -/
def ofMagnitude (negative : Bool) (magnitude : Nat) : Binary64 :=
  ⟨UInt64.ofNat ((if negative then signWeight else 0) + magnitude)⟩

/-- Infinity. -/
def infinity (negative : Bool) : Binary64 := ofMagnitude negative (2047 * exponentWeight)

/-- Zero, positive or negative. -/
def zero (negative : Bool) : Binary64 := ofMagnitude negative 0

/-- `num / den / 2^e` as a quotient of naturals. -/
def scaled (num den : Nat) (e : Int) : Nat × Nat :=
  if 0 ≤ e then (num, den * Nat.pow 2 e.toNat) else (num * Nat.pow 2 (-e).toNat, den)

/-- The exponent that gives the quotient a significand below `2^53`, and of at least `2^52`
unless the quotient is subnormal. -/
def exponentOf (num den : Nat) : Int :=
  let e := max ((num.log2 : Int) - den.log2 - 53) (-1074)
  let (n, d) := scaled num den e
  if n / d < 2 * exponentWeight then e else e + 1

/-- The double nearest to `± num / den`, ties to even; infinity where none is large enough. -/
def ofRatio (negative : Bool) (num den : Nat) : Binary64 :=
  if num = 0 then zero negative
  else
    let e := exponentOf num den
    let (n, d) := scaled num den e
    let magnitude := (e + 1074).toNat * exponentWeight + divideToEven n d
    if magnitude < 2047 * exponentWeight then ofMagnitude negative magnitude else infinity negative

/-- The double nearest to a natural number. -/
def ofNat (n : Nat) : Binary64 := ofRatio false n 1

/-- The double nearest to an integer. -/
def ofInt (i : Int) : Binary64 := ofRatio (decide (i < 0)) i.natAbs 1

/-! ## Arithmetic on finite doubles -/

/-- The same magnitude with the other sign. -/
def neg (x : Binary64) : Binary64 := ofMagnitude (!x.negative) (x.bits.toNat % signWeight)

/-- The exact product, rounded. -/
def mul (x y : Binary64) : Binary64 :=
  ofRatio (x.negative != y.negative) (x.ratio.1 * y.ratio.1) (x.ratio.2 * y.ratio.2)

/-- The exact quotient by a number that is not zero, rounded. -/
def div (x y : Binary64) : Binary64 :=
  ofRatio (x.negative != y.negative) (x.ratio.1 * y.ratio.2) (x.ratio.2 * y.ratio.1)

/-- The exact sum of two numbers that are not negative, rounded. -/
def addPositive (x y : Binary64) : Binary64 :=
  ofRatio false (x.ratio.1 * y.ratio.2 + y.ratio.1 * x.ratio.2) (x.ratio.2 * y.ratio.2)

/-- The finite double, or the nearest end of the interval from zero to one. -/
def clampUnit (x : Binary64) : Binary64 :=
  if x.negative then (if x.isZero then x else zero false)
  else if x.ratio.2 < x.ratio.1 then ofNat 1 else x

/-! ## Values -/

example : ofRatio false 1 10 = ⟨0x3FB999999999999A⟩ := by decide
example : ofRatio false 3 (2 ^ 1075) = ⟨2⟩ := by decide +kernel

end Binary64

end VoiceTicket
