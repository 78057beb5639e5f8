/-
  How long to wait before the next attempt.

  1. **Data** — a `Policy` has a base delay, a cap and a jitter.

  2. **Program** — `Policy.backoff n` is the delay before retry `n`, without jitter;
     `Policy.delay? n f` adds the share `f` of the jitter.

  3. **Specification** — the delay doubles with every attempt until the cap takes over, and it is
     spread by a share of the jitter between nothing and all of it.  A share that is no finite
     number is none.

  4. **Crux** — the doubling stops after twenty steps in any case, so that the factor stays small
     whatever the number of attempts.
-/
import VoiceTicket.Duration

namespace VoiceTicket

/-- How long to wait before the next attempt. -/
structure Policy where
  base : Duration
  cap : Duration
  jitter : Duration
deriving DecidableEq, Repr

namespace Policy

/-- The greatest number of doublings. -/
def maxDoublings : Nat := 20

/-- One second, doubled up to half a minute, and up to half a second more. -/
def standard : Policy := ⟨.ofSeconds 1, .ofSeconds 30, .ofMillis 500⟩

/-- The delay before a retry, without jitter. -/
def backoff (p : Policy) (attempt : Nat) : Duration :=
  (p.base.times (Nat.pow 2 (min (attempt - 1) maxDoublings))).shorter p.cap

/-- A share that can be taken: between nothing and all. -/
def usableShare (fraction : Binary64) : Binary64 :=
  if fraction.isFinite then fraction.clampUnit else Binary64.zero false

/-- The delay before a retry with a share of the jitter, if it fits a duration. -/
def delay? (p : Policy) (attempt : Nat) (fraction : Binary64) : Option Duration := do
  let spread ← p.jitter.share? (usableShare fraction)
  (p.backoff attempt).add? spread

/-- The longest delay there can be, if it fits a duration. -/
def maxDelay? (p : Policy) : Option Duration := p.cap.add? p.jitter

theorem nanos_backoff (p : Policy) (attempt : Nat) :
    (p.backoff attempt).nanos =
      min (min (p.base.nanos * Nat.pow 2 (min (attempt - 1) maxDoublings)) (Duration.limit - 1))
        p.cap.nanos := by
  simp [backoff, Duration.times, Duration.saturate]

/-- No delay without jitter is longer than the cap. -/
theorem backoff_le_cap (p : Policy) (attempt : Nat) : p.backoff attempt ≤ p.cap := by
  show (p.backoff attempt).nanos ≤ p.cap.nanos
  rw [nanos_backoff]; omega

example : ((List.range' 1 7).map fun n => (standard.backoff n).millis) =
    [1000, 2000, 4000, 8000, 16000, 30000, 30000] := by decide +kernel

end Policy

end VoiceTicket
