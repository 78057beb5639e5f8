/-
  The bookkeeping of the one logical connection.

  1. **Data** — a `Link` says whether a connection is wanted and whether there is one, how often
     it failed in a row, which retry is armed, and how many were armed in this run.  Runs are
     numbered: each beginning gives the next number.

  2. **Program** — five transitions: `start?`, `opened`, `closed`, `retryFired`, `stop`.

  3. **Specification** — a close arms a retry exactly when the connection is wanted, with the
     delay of the policy for the number of failures since the last opening.

  4. **Crux** — a run counts as the current one (`isCurrent`) only until the connection is stopped:
     the next beginning has another number.

  The counters are natural numbers.  A word of 64 bits agrees with `scheduled` and with `run` for as
  long as fewer than `2 ^ 64` transitions have been made (`Kept.fits`), and with fewer beginnings
  than that it tells the run under way from all earlier ones (`Kept.stale64`).  `attempt` stops at
  the greatest number of 32 bits, as a word does that is not to overflow.
-/
import VoiceTicket.Reconnect.Policy

namespace VoiceTicket

/-- The bookkeeping of a connection. -/
structure Link where
  wanted : Bool
  attempt : Nat
  connected : Bool
  pending : Option Duration
  scheduled : Nat
  run : Nat
deriving DecidableEq, Repr

namespace Link

/-- No connection is wanted, and there was none yet. -/
def idle : Link := ⟨false, 0, false, none, 0, 0⟩

instance : Inhabited Link := ⟨idle⟩

/-- Failures in a row are counted up to here. -/
def maxAttempt : Nat := 0xFFFFFFFF

/-- Wants a connection, from now on in a new run, unless one is wanted already. -/
def start? (l : Link) : Option Link :=
  if l.wanted then none else some ⟨true, 0, false, none, 0, l.run + 1⟩

/-- A socket has opened. -/
def opened (l : Link) : Link := { l with attempt := 0, connected := true, pending := none }

/-- What follows from a close. -/
inductive Closing where
  /-- No connection is wanted. -/
  | unwanted
  /-- A retry has been armed. -/
  | armed (delay : Duration)
  /-- A retry would have to wait for longer than a duration can tell. -/
  | overflow
deriving DecidableEq, Repr

/-- A socket has closed, or could not be opened: arms a retry if a connection is wanted. -/
def closed (l : Link) (policy : Policy) (fraction : Binary64) : Closing × Link :=
  if !l.wanted then (.unwanted, { l with connected := false })
  else
    let attempt := min (l.attempt + 1) maxAttempt
    match policy.delay? attempt fraction with
    | some delay =>
      (.armed delay,
        { l with
          connected := false, attempt, pending := some delay, scheduled := l.scheduled + 1 })
    | none => (.overflow, { l with connected := false, attempt })

/-- One more attempt has failed. -/
def failed (l : Link) : Link :=
  { l with connected := false, attempt := min (l.attempt + 1) maxAttempt }

/-- A retry has been armed. -/
def retrying (l : Link) (delay : Duration) : Link :=
  { l with pending := some delay, scheduled := l.scheduled + 1 }

theorem closed_of_unwanted {l : Link} (unwanted : l.wanted = false) (policy : Policy)
    (share : Binary64) : l.closed policy share = (.unwanted, { l with connected := false }) := by
  simp [closed, unwanted]

theorem closed_of_wanted {l : Link} (wanted : l.wanted = true) (policy : Policy)
    (share : Binary64) :
    l.closed policy share =
      match policy.delay? l.failed.attempt share with
      | some delay => (.armed delay, l.failed.retrying delay)
      | none => (.overflow, l.failed) := by
  cases delayed : policy.delay? l.failed.attempt share with
  | some delay =>
    have delayed : policy.delay? (min (l.attempt + 1) maxAttempt) share = some delay := delayed
    simp [closed, wanted, delayed, failed, retrying]
  | none =>
    have delayed : policy.delay? (min (l.attempt + 1) maxAttempt) share = none := delayed
    simp [closed, wanted, delayed, failed]

/-- The armed retry is due. -/
def retryFired (l : Link) : Link := { l with pending := none }

/-- Wants no connection any more; says whether one was wanted. -/
def stop (l : Link) : Bool × Link :=
  if l.wanted then (true, { l with wanted := false, connected := false, pending := none })
  else (false, l)

/-- Whether a run is the one under way. -/
def isCurrent (l : Link) (run : Nat) : Bool := l.wanted && l.run == run

end Link

end VoiceTicket
