/-
  How long the delays are.

  1. **Data** — `Policy.doubled p times` is the base delay of a policy, doubled so many times, or
     its cap if that is shorter: a number of nanoseconds, computed without any bound.

  2. **Specification** — the delays of a policy that comes from settings lie between its base and its
     cap and never get shorter, and none of them overflows, with the jitter or without it
     (`delays_bounded`).  They double with every attempt exactly as long as the doublings last, or
     if the cap takes over before these end (`backoff_eq_doubled_iff`).

  3. **Crux** — a product that is too great for a duration is greater than the cap anyway, since the
     cap is a duration; so the greatest duration never shows (`nanos_backoff_eq_doubled`).
-/
import VoiceTicket.Proofs.Settings.Reading
import VoiceTicket.Reconnect.Link

namespace VoiceTicket

namespace Duration

/-- So many milliseconds as fit a word of 64 bits, twice over, still fit a duration. -/
theorem nanos_ofMillis_lt {n : Nat} (fits : n < Nat.pow 2 64) :
    2 * (ofMillis n).nanos < limit := by
  have word : Nat.pow 2 64 = 18446744073709551616 := by decide
  have exact' : (ofMillis n).nanos ≤ n * perMilli := Nat.min_le_left _ _
  rw [word] at fits
  rw [perMilli] at exact'
  rw [limit, perSecond]
  omega

/-- More milliseconds are no shorter. -/
theorem ofMillis_le {m n : Nat} (le : m ≤ n) : ofMillis m ≤ ofMillis n := by
  have products : m * perMilli ≤ n * perMilli := Nat.mul_le_mul_right perMilli le
  show min (m * perMilli) (limit - 1) ≤ min (n * perMilli) (limit - 1)
  omega

/-- A sum that fits is a duration. -/
theorem add?_of_lt {a b : Duration} (fits : a.nanos + b.nanos < limit) :
    ∃ c, a.add? b = some c ∧ c.nanos = a.nanos + b.nanos := by
  refine ⟨⟨a.nanos + b.nanos, fits⟩, ?_, rfl⟩
  rw [add?, ofNanos?, dif_pos fits]

end Duration

namespace Policy

variable {p : Policy} {m n i j : Nat}

/-! ## Doubling -/

/-- The base delay doubled so many times, up to the cap, in nanoseconds. -/
def doubled (p : Policy) (times : Nat) : Nat :=
  min (p.base.nanos * Nat.pow 2 times) p.cap.nanos

/-- **The greatest duration never shows**: where the product reaches it, the cap is shorter. -/
theorem nanos_backoff_eq_doubled (p : Policy) (attempt : Nat) :
    (p.backoff attempt).nanos = p.doubled (min (attempt - 1) maxDoublings) := by
  have fits := p.cap.nanos_lt
  rw [nanos_backoff, doubled]
  omega

/-- The factor fits a word of 32 bits. -/
theorem factor_lt (attempt : Nat) : Nat.pow 2 (min (attempt - 1) maxDoublings) < Nat.pow 2 32 := by
  refine Nat.pow_lt_pow_right (by decide) ?_
  rw [maxDoublings]
  omega

theorem product_le (p : Policy) (le : i ≤ j) :
    p.base.nanos * Nat.pow 2 i ≤ p.base.nanos * Nat.pow 2 j :=
  Nat.mul_le_mul_left _ (Nat.pow_le_pow_right (by decide) le)

theorem doubled_le (p : Policy) (le : i ≤ j) : p.doubled i ≤ p.doubled j := by
  have products := p.product_le le
  rw [doubled, doubled]
  omega

/-- No doubling makes the delay shorter than the base. -/
theorem base_le_doubled (capped : p.base ≤ p.cap) (times : Nat) :
    p.base.nanos ≤ p.doubled times := by
  have first : p.base.nanos * Nat.pow 2 0 = p.base.nanos := Nat.mul_one _
  have products := p.product_le (Nat.zero_le times)
  have capped : p.base.nanos ≤ p.cap.nanos := capped
  rw [doubled]
  omega

/-- Further doublings make no difference exactly if there are none, or if the cap took over. -/
theorem doubled_eq_iff (some : 0 < p.base.nanos) (le : i ≤ j) :
    p.doubled i = p.doubled j ↔ i = j ∨ p.cap.nanos ≤ p.base.nanos * Nat.pow 2 i := by
  rcases Nat.eq_or_lt_of_le le with rfl | less
  · exact ⟨fun _ => Or.inl rfl, fun _ => rfl⟩
  · have longer : p.base.nanos * Nat.pow 2 i < p.base.nanos * Nat.pow 2 j :=
      Nat.mul_lt_mul_of_pos_left (Nat.pow_lt_pow_right (by decide) less) some
    rw [doubled, doubled]
    omega

/-! ## The delays -/

theorem backoff_le (p : Policy) (le : m ≤ n) : p.backoff m ≤ p.backoff n := by
  show (p.backoff m).nanos ≤ (p.backoff n).nanos
  rw [nanos_backoff_eq_doubled, nanos_backoff_eq_doubled]
  exact p.doubled_le (by omega)

theorem base_le_backoff (capped : p.base ≤ p.cap) (attempt : Nat) : p.base ≤ p.backoff attempt := by
  show p.base.nanos ≤ (p.backoff attempt).nanos
  rw [nanos_backoff_eq_doubled]
  exact base_le_doubled capped _

/-- Where the longest delay fits a duration, so does every other one. -/
theorem add?_le_maxDelay? {longest d : Duration} (whole : p.maxDelay? = some longest)
    (le : d ≤ p.jitter) (attempt : Nat) :
    ∃ delay, (p.backoff attempt).add? d = some delay ∧ delay ≤ longest := by
  have capped : (p.backoff attempt).nanos ≤ p.cap.nanos := p.backoff_le_cap attempt
  have spread : d.nanos ≤ p.jitter.nanos := le
  have longest' : p.cap.nanos + p.jitter.nanos = longest.nanos := by
    rw [maxDelay?, Duration.add?, Duration.ofNanos?] at whole
    split at whole
    · cases whole
      rfl
    · cases whole
  have fits := longest.nanos_lt
  obtain ⟨delay, sum, nanos⟩ : ∃ c, (p.backoff attempt).add? d = some c ∧
      c.nanos = (p.backoff attempt).nanos + d.nanos := Duration.add?_of_lt (by omega)
  refine ⟨delay, sum, ?_⟩
  show delay.nanos ≤ longest.nanos
  omega

end Policy

/-! ## The policy of settings -/

namespace RetrySettings

theorem milli_le_base (r : RetrySettings) : Duration.ofMillis 1 ≤ r.policy.base :=
  Duration.ofMillis_le (Nat.le_max_right r.base 1)

theorem base_pos (r : RetrySettings) : 0 < r.policy.base.nanos := by
  have milli : 1 * Duration.perMilli ≤ r.policy.base.nanos := r.milli_le_base
  rw [Duration.perMilli] at milli
  omega

/-- The cap is no shorter than the base, whatever the settings say. -/
theorem nanos_cap (r : RetrySettings) :
    r.policy.cap.nanos = max (Duration.ofMillis r.cap).nanos r.policy.base.nanos :=
  Duration.nanos_longer _ _

theorem base_le_cap (r : RetrySettings) : r.policy.base ≤ r.policy.cap := by
  show r.policy.base.nanos ≤ r.policy.cap.nanos
  rw [nanos_cap]
  omega

/-- Cap and jitter together are far from the greatest duration. -/
theorem exists_maxDelay (r : RetrySettings) (fits : r.Fits) :
    ∃ longest, r.policy.maxDelay? = some longest := by
  obtain ⟨fitsBase, fitsCap, fitsJitter⟩ := fits
  have one : 1 < Nat.pow 2 64 := by decide
  have base : 2 * r.policy.base.nanos < Duration.limit :=
    Duration.nanos_ofMillis_lt (Nat.max_lt.2 ⟨fitsBase, one⟩)
  have cap : 2 * (Duration.ofMillis r.cap).nanos < Duration.limit :=
    Duration.nanos_ofMillis_lt fitsCap
  have jitter : 2 * r.policy.jitter.nanos < Duration.limit := Duration.nanos_ofMillis_lt fitsJitter
  have longer := r.nanos_cap
  obtain ⟨longest, whole, -⟩ : ∃ c, r.policy.cap.add? r.policy.jitter = some c ∧
      c.nanos = r.policy.cap.nanos + r.policy.jitter.nanos := Duration.add?_of_lt (by omega)
  exact ⟨longest, whole⟩

/-- **When the delays double.**  Before retry `n` the delay is the base doubled `n - 1` times, up to
the cap, exactly if the doublings have not ended by then or the cap takes over before they end. -/
theorem backoff_eq_doubled_iff (r : RetrySettings) (n : Nat) :
    (r.policy.backoff n).nanos =
        min (r.policy.base.nanos * Nat.pow 2 (n - 1)) r.policy.cap.nanos ↔
      n ≤ Policy.maxDoublings + 1 ∨
        r.policy.cap.nanos ≤ r.policy.base.nanos * Nat.pow 2 Policy.maxDoublings := by
  show _ = r.policy.doubled (n - 1) ↔ _
  rw [Policy.nanos_backoff_eq_doubled]
  by_cases early : n ≤ Policy.maxDoublings + 1
  · have all : min (n - 1) Policy.maxDoublings = n - 1 := by omega
    rw [all]
    exact ⟨fun _ => Or.inl early, fun _ => rfl⟩
  · have cut : min (n - 1) Policy.maxDoublings = Policy.maxDoublings := by omega
    have further : Policy.maxDoublings ≠ n - 1 := by omega
    rw [cut, Policy.doubled_eq_iff r.base_pos (by omega)]
    exact or_congr (iff_of_false further early) Iff.rfl

/-- A base of a millisecond does not reach a cap of half an hour and more in twenty doublings. -/
theorem not_forall_backoff_eq_doubled :
    ¬ ∀ (r : RetrySettings) (n : Nat), r.Fits → 1 ≤ n → n ≤ Link.maxAttempt →
      (r.policy.backoff n).nanos =
        min (r.policy.base.nanos * Nat.pow 2 (n - 1)) r.policy.cap.nanos := by
  intro always
  have fits : Fits ⟨1, 2097152, 0⟩ := ⟨by decide, by decide, by decide⟩
  have same := always ⟨1, 2097152, 0⟩ 22 fits (by decide) (by decide)
  revert same
  decide +kernel

/-- **The delays are bounded.**  For settings of any size: the base is a millisecond at least, the cap
no shorter; the delays lie between them and never get shorter; and whatever is computed fits, with
the jitter or any part of it, and is at most the longest delay. -/
theorem delays_bounded (r : RetrySettings) (fits : r.Fits) :
    Duration.ofMillis 1 ≤ r.policy.base ∧ r.policy.base ≤ r.policy.cap ∧
    (∀ m n, m ≤ n → r.policy.base ≤ r.policy.backoff m ∧
      r.policy.backoff m ≤ r.policy.backoff n ∧ r.policy.backoff n ≤ r.policy.cap) ∧
    (∀ n, Nat.pow 2 (min (n - 1) Policy.maxDoublings) < Nat.pow 2 32 ∧
      (r.policy.backoff n).nanos = r.policy.doubled (min (n - 1) Policy.maxDoublings)) ∧
    ∃ longest, r.policy.maxDelay? = some longest ∧ ∀ n d, d ≤ r.policy.jitter →
      ∃ delay, (r.policy.backoff n).add? d = some delay ∧ delay ≤ longest := by
  refine ⟨r.milli_le_base, r.base_le_cap, fun m n le => ?_, fun n => ?_, ?_⟩
  · exact ⟨Policy.base_le_backoff r.base_le_cap m, r.policy.backoff_le le,
      r.policy.backoff_le_cap n⟩
  · exact ⟨Policy.factor_lt n, r.policy.nanos_backoff_eq_doubled n⟩
  · obtain ⟨longest, whole⟩ := r.exists_maxDelay fits
    exact ⟨longest, whole, fun n d le => Policy.add?_le_maxDelay? whole le n⟩

/-- No base at all, and the greatest cap and jitter that settings can hold. -/
theorem delays_bounded_extreme :
    let r : RetrySettings := ⟨0, 0xFFFFFFFFFFFFFFFF, 0xFFFFFFFFFFFFFFFF⟩
    r.Fits ∧ r.policy.base = Duration.ofMillis 1 ∧ ∃ longest, r.policy.maxDelay? = some longest ∧
      ∃ delay, (r.policy.backoff Link.maxAttempt).add? r.policy.jitter = some delay ∧
        delay ≤ longest := by
  intro r
  have fits : r.Fits := ⟨by decide, by decide, by decide⟩
  obtain ⟨-, -, -, -, longest, whole, all⟩ := delays_bounded r fits
  exact ⟨fits, rfl, longest, whole, all Link.maxAttempt r.policy.jitter (Nat.le_refl _)⟩

end RetrySettings

end VoiceTicket
