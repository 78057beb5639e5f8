/-
  Spans of time.

  1. **Data** — a `Duration` is a whole number of nanoseconds below 2^64 seconds.

  2. **Program** — multiplication by a natural number stops at the greatest duration; a sum or a
     product with a double that does not fit has no value.

  3. **Specification** — everything is exact in nanoseconds, but the product with a double: there
     the duration is first turned into seconds as a double, and the product is rounded to the
     nearest nanosecond, a tie to the even one.
-/
import VoiceTicket.Binary64

namespace VoiceTicket

namespace Duration

/-- Nanoseconds in a second. -/
def perSecond : Nat := 1000000000

/-- Nanoseconds in a millisecond. -/
def perMilli : Nat := 1000000

/-- The first number of nanoseconds that is too great for a duration. -/
def limit : Nat := 0x10000000000000000 * perSecond

end Duration

/-- A span of time. -/
structure Duration where
  nanos : Nat
  nanos_lt : nanos < Duration.limit
deriving DecidableEq, Repr

namespace Duration

/-- No time. -/
def zero : Duration := ⟨0, by decide⟩

instance : Inhabited Duration := ⟨zero⟩

/-- Durations are equal when they have as many nanoseconds. -/
@[ext] theorem ext {a b : Duration} (h : a.nanos = b.nanos) : a = b := by
  cases a; cases b; cases h; rfl

/-- So many nanoseconds, if they fit. -/
def ofNanos? (n : Nat) : Option Duration := if h : n < limit then some ⟨n, h⟩ else none

/-- So many nanoseconds, or the greatest duration. -/
def saturate (n : Nat) : Duration :=
  ⟨min n (limit - 1), by have : 0 < limit := by decide
                         omega⟩

/-- So many milliseconds. -/
def ofMillis (n : Nat) : Duration := saturate (n * perMilli)

/-- So many seconds. -/
def ofSeconds (n : Nat) : Duration := saturate (n * perSecond)

/-- The whole milliseconds of a duration. -/
def millis (d : Duration) : Nat := d.nanos / perMilli

instance : LE Duration := ⟨fun a b => a.nanos ≤ b.nanos⟩

instance (a b : Duration) : Decidable (a ≤ b) := inferInstanceAs (Decidable (a.nanos ≤ b.nanos))

/-- The shorter of two durations. -/
def shorter (a b : Duration) : Duration := if a ≤ b then a else b

/-- The longer of two durations. -/
def longer (a b : Duration) : Duration := if a ≤ b then b else a

/-- The duration so many times over, or the greatest one. -/
def times (d : Duration) (n : Nat) : Duration := saturate (d.nanos * n)

/-- The sum, if it fits. -/
def add? (a b : Duration) : Option Duration := ofNanos? (a.nanos + b.nanos)

@[simp] theorem nanos_shorter (a b : Duration) :
    (shorter a b).nanos = min a.nanos b.nanos := by
  show (if a.nanos ≤ b.nanos then a else b).nanos = _
  split <;> omega

@[simp] theorem nanos_longer (a b : Duration) :
    (longer a b).nanos = max a.nanos b.nanos := by
  show (if a.nanos ≤ b.nanos then b else a).nanos = _
  split <;> omega

/-! ## Shares of a duration -/

/-- The duration in seconds: its whole seconds and its further nanoseconds, each rounded. -/
def seconds (d : Duration) : Binary64 :=
  (Binary64.ofNat (d.nanos / perSecond)).addPositive
    ((Binary64.ofNat (d.nanos % perSecond)).div (Binary64.ofNat perSecond))

/-- The duration of so many seconds, to the nearest nanosecond, if it fits. -/
def ofSeconds? (x : Binary64) : Option Duration :=
  ofNanos? (Binary64.divideToEven (x.ratio.1 * perSecond) x.ratio.2)

/-- A share of a duration, for a share that is finite and not negative. -/
def share? (d : Duration) (fraction : Binary64) : Option Duration :=
  ofSeconds? (fraction.mul d.seconds)

example : (ofMillis 500).share? (Binary64.ofRatio false 1 2) = some (ofMillis 250) := by
  decide +kernel
example : (saturate limit).share? (Binary64.ofNat 1) = none := by decide +kernel

end Duration

end VoiceTicket
