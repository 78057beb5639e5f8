/-
  What a run can do in its turn.

  1. **Data** — `Turn k now run r k'`: the run `run`, which stands as `r` in `k`, may make one step,
     and the step leads to `k'`.  `Retry k run k'` is the second half of a failed attempt.

  2. **Specification** — `turn_of_advance`: every step of a run is one of these turns, whatever the
     choice.  Each names what the run waited for, whether it was the current run, and the world it
     leaves behind.

  3. **Crux** — reports are gathered in `Keeper.told`, so that a turn is a record update even where
     the step reports several things; a report that fails is a turn of its own (`Turn.failed`), of
     which only what it leaves alone is told (`Alike`).
-/
import VoiceTicket.Keeper.Move

namespace VoiceTicket

/-! ## Phases -/

/-- The socket that an attempt was given. -/
def Dial.socket? : Dial → Option Nat
  | .accepted socket => some socket
  | .refused _ => none

namespace Phase

/-- The socket that a run in this phase has to do with. -/
def socket? : Phase → Option Nat
  | .connecting dial => dial.bind Dial.socket?
  | .reading socket | .draining socket _ => some socket
  | .waiting _ | .attempting | .sleeping _ | .ended => none

/-- The run waits for another one. -/
def isWaiting : Phase → Bool
  | .waiting _ => true
  | _ => false

/-- A run may go out of this phase with a report. -/
def reports : Phase → Bool
  | .attempting | .connecting _ | .reading _ => true
  | .waiting _ | .draining .. | .sleeping _ | .ended => false

end Phase

/-- It goes into the log. -/
def Signal.isLog : Signal → Bool
  | .log .. => true
  | _ => false

namespace Keeper

/-- A socket has opened. -/
def openSocket (k : Keeper) (socket : Nat) : Keeper :=
  k.modifySocket socket fun s => { s with opened := true }

/-- What the peer of a socket has sent and nobody has read yet. -/
def unread (k : Keeper) (socket : Nat) : List SocketEvent :=
  match k.sockets[socket]? with
  | some s => s.queue
  | none => []

/-! ## Reports that do not fail -/

/-- The world after some reports, none of which fails; the entries of the log among them are spared
by the failure that may be to come. -/
def told (k : Keeper) (signals : List Signal) : Keeper :=
  { k with
    logFails := k.logFails.map (· - signals.countP Signal.isLog)
    signals := k.signals ++ signals
    store := signals.foldl Store.receive k.store }

/-- The world after it was reported that the connection is down. -/
def down (k : Keeper) (level : Level) (message : String) : Keeper :=
  { k with link := { k.link with connected := false } }.told [.connected false, .log level message]

theorem told_nil (k : Keeper) : k.told [] = k := by
  simp [told]

theorem told_told (k : Keeper) (before after : List Signal) :
    (k.told before).told after = k.told (before ++ after) := by
  simp only [told, Option.map_map, List.countP_append, List.append_assoc, List.foldl_append]
  congr 2
  funext spared
  exact Nat.sub_sub spared _ _

/-- Where no entry of the log is to fail, none is to fail after some reports. -/
theorem heeded_told {k : Keeper} {signals : List Signal} (heeded : k.logFails = none) :
    (k.told signals).logFails = none :=
  Option.map_eq_none_iff.2 heeded

theorem heeded_down {k : Keeper} {level : Level} {message : String} (heeded : k.logFails = none) :
    (k.down level message).logFails = none :=
  heeded_told (k := { k with link := { k.link with connected := false } }) heeded

/-- A report either arrives, or fails because this entry of the log was to fail. -/
theorem report_cases (k : Keeper) (signal : Signal) :
    k.report signal = .ok (k.told [signal]) ∨
      (signal.isLog = true ∧ k.logFails = some 0 ∧
        k.report signal = .error { k with logFails := none }) := by
  cases signal with
  | log level message =>
    cases fails : k.logFails with
    | none => exact Or.inl (by simp [report, tell, told, fails])
    | some spared =>
      cases spared with
      | zero => exact Or.inr ⟨rfl, rfl, by simp only [report, fails]⟩
      | succ spared => exact Or.inl (by simp [report, tell, told, fails, Signal.isLog])
  | _ => exact Or.inl (by simp [report, tell, told, Signal.isLog])

/-- Reports either all arrive, or one of them fails after those before it have arrived. -/
theorem reportAll_cases (k : Keeper) (signals : List Signal) :
    k.reportAll signals = .ok (k.told signals) ∨
      ∃ said, k.logFails ≠ none ∧
        k.reportAll signals = .error { k.told said with logFails := none } := by
  induction signals generalizing k with
  | nil => exact Or.inl (by rw [told_nil]; rfl)
  | cons signal rest ih =>
    rcases report_cases k signal with arrived | ⟨_, fails, failed⟩
    · have split : k.reportAll (signal :: rest) = (k.told [signal]).reportAll rest := by
        simp only [reportAll, List.foldlM_cons, arrived]
        rfl
      rcases ih (k.told [signal]) with all | ⟨said, fails, broken⟩
      · exact Or.inl (by rw [split, all, told_told]; rfl)
      · refine Or.inr ⟨signal :: said, fun heeded => fails (heeded_told heeded), ?_⟩
        rw [split, broken, told_told]
        rfl
    · refine Or.inr ⟨[], by rw [fails]; nofun, ?_⟩
      simp only [reportAll, List.foldlM_cons, failed, told_nil]
      rfl

/-- What follows on reports follows on their arrival, or the run ends at the one that fails. -/
theorem conclude_reportAll_bind (k : Keeper) (signals : List Signal) (run : Nat)
    (f : Keeper → Effect) :
    conclude run (k.reportAll signals >>= f) = conclude run (f (k.told signals)) ∨
      ∃ said, k.logFails ≠ none ∧
        conclude run (k.reportAll signals >>= f)
          = { k.told said with logFails := none }.setPhase run .ended := by
  rcases reportAll_cases k signals with arrived | ⟨said, fails, failed⟩
  · exact Or.inl (by rw [arrived]; rfl)
  · exact Or.inr ⟨said, fails, by rw [failed]; rfl⟩

theorem reportLog_eq (k : Keeper) (level : Level) (message : String) :
    k.reportLog level message = k.reportAll [.log level message] := by
  simp only [reportAll, reportLog, List.foldlM_cons, List.foldlM_nil]
  cases k.report (.log level message) <;> rfl

/-- Where no entry of the log is to fail all reports arrive. -/
theorem reportAll_of_heeded {k : Keeper} (heeded : k.logFails = none) (signals : List Signal) :
    k.reportAll signals = .ok (k.told signals) := by
  rcases reportAll_cases k signals with arrived | ⟨_, fails, _⟩
  · exact arrived
  · exact absurd heeded fails

theorem reportLog_of_heeded {k : Keeper} (heeded : k.logFails = none) (level : Level)
    (message : String) : k.reportLog level message = .ok (k.told [.log level message]) := by
  rw [reportLog_eq, reportAll_of_heeded heeded]

theorem reportDown_of_heeded {k : Keeper} (heeded : k.logFails = none) (level : Level)
    (message : String) : k.reportDown level message = .ok (k.down level message) :=
  reportAll_of_heeded (k := { k with link := { k.link with connected := false } }) heeded _

/-! ## Small facts about the world after a turn -/

@[simp] theorem isCurrent_down (k : Keeper) (level : Level) (message : String) (run : Nat) :
    (k.down level message).isCurrent run = k.isCurrent run := rfl

@[simp] theorem isCurrent_modifySocket (k : Keeper) (socket : Nat) (f : Socket → Socket)
    (run : Nat) : (k.modifySocket socket f).isCurrent run = k.isCurrent run := rfl

theorem release_of_none {k : Keeper} (h : k.live = none) : k.release = k := by
  unfold release
  rw [h]

theorem release_of_some {k : Keeper} {socket : Nat} (h : k.live = some socket) :
    k.release = { k.closeSocket socket with live := none } := by
  unfold release
  rw [h]

/-- Releasing changes nothing but the closer that is at hand and its socket. -/
theorem release_eq (k : Keeper) :
    k.release = { k with live := none, sockets := k.release.sockets } := by
  cases h : k.live with
  | none =>
    rw [release_of_none h]
    cases k
    cases h
    rfl
  | some socket => rw [release_of_some h]; rfl

@[simp] theorem isCurrent_release (k : Keeper) (run : Nat) :
    k.release.isCurrent run = k.isCurrent run := by
  rw [release_eq]; rfl

/-- Reading takes an event from one socket and changes nothing else. -/
theorem readNext?_eq {k k' : Keeper} {socket : Nat} {e : SocketEvent}
    (h : k.readNext? socket = some (e, k')) :
    ∃ s s', k.sockets[socket]? = some s ∧ s.next? = some (e, s') ∧
      k' = k.modifySocket socket fun _ => s' := by
  unfold readNext? at h
  split at h
  · cases h
  · next s hs =>
    split at h
    · cases h
    · next e' s' next =>
      cases h
      exact ⟨s, s', hs, next, rfl⟩

/-- A change of a socket that leaves its queue alone leaves all that is unread alone. -/
theorem unread_modifySocket (k : Keeper) (socket : Nat) {f : Socket → Socket}
    (same : ∀ s, (f s).queue = s.queue) (other : Nat) :
    (k.modifySocket socket f).unread other = k.unread other := by
  simp only [unread, modifySocket, List.getElem?_modify]
  cases k.sockets[other]? with
  | none => rfl
  | some s =>
    by_cases h : socket = other
    · simp [h, same]
    · simp [h]

theorem unread_openSocket (k : Keeper) (socket other : Nat) :
    (k.openSocket socket).unread other = k.unread other := by
  apply unread_modifySocket
  exact fun _ => rfl

theorem unread_closeSocket (k : Keeper) (socket other : Nat) :
    (k.closeSocket socket).unread other = k.unread other := by
  apply unread_modifySocket
  exact fun _ => rfl

theorem unread_release (k : Keeper) (socket : Nat) : k.release.unread socket = k.unread socket := by
  cases h : k.live with
  | none => rw [release_of_none h]
  | some live =>
    rw [release_of_some h]
    exact unread_closeSocket k live socket

/-- Reading takes nothing from any other socket. -/
theorem unread_readNext? {k k' : Keeper} {socket other : Nat} {e : SocketEvent}
    (h : k.readNext? socket = some (e, k')) (ne : socket ≠ other) :
    k'.unread other = k.unread other := by
  obtain ⟨_, _, _, _, rfl⟩ := readNext?_eq h
  simp only [unread, modifySocket, List.getElem?_modify, ne, if_false]
  cases k.sockets[other]? <;> rfl

theorem isCurrent_readNext? {k k' : Keeper} {socket : Nat} {e : SocketEvent}
    (h : k.readNext? socket = some (e, k')) (run : Nat) :
    k'.isCurrent run = k.isCurrent run := by
  obtain ⟨_, _, _, _, rfl⟩ := readNext?_eq h
  rfl

/-! ## Turns -/


/-- The same world but for what was reported, what is booked of the connection at hand, and how far
the sockets have come. -/
structure Alike (k k' : Keeper) : Prop where
  policy : k'.policy = k.policy
  baseUrl : k'.baseUrl = k.baseUrl
  wanted : k'.link.wanted = k.link.wanted
  number : k'.link.run = k.link.run
  previous : k'.previous = k.previous
  runs : k'.runs = k.runs
  dials : k'.dials = k.dials
  clock : k'.clock = k.clock
  dialled : k'.dialled = k.dialled
  sockets : k'.sockets.length = k.sockets.length

theorem Alike.refl (k : Keeper) : Alike k k :=
  ⟨rfl, rfl, rfl, rfl, rfl, rfl, rfl, rfl, rfl, rfl⟩

theorem Alike.trans {k₁ k₂ k₃ : Keeper} (h : Alike k₁ k₂) (h' : Alike k₂ k₃) : Alike k₁ k₃ where
  policy := h'.policy.trans h.policy
  baseUrl := h'.baseUrl.trans h.baseUrl
  wanted := h'.wanted.trans h.wanted
  number := h'.number.trans h.number
  previous := h'.previous.trans h.previous
  runs := h'.runs.trans h.runs
  dials := h'.dials.trans h.dials
  clock := h'.clock.trans h.clock
  dialled := h'.dialled.trans h.dialled
  sockets := h'.sockets.trans h.sockets

theorem alike_told (k : Keeper) (signals : List Signal) : Alike k (k.told signals) :=
  ⟨rfl, rfl, rfl, rfl, rfl, rfl, rfl, rfl, rfl, rfl⟩

/-- Some reports have arrived, and the next has failed. -/
theorem alike_broken (k : Keeper) (said : List Signal) :
    Alike k { k.told said with logFails := none } :=
  ⟨rfl, rfl, rfl, rfl, rfl, rfl, rfl, rfl, rfl, rfl⟩

theorem alike_disconnect (k : Keeper) :
    Alike k { k with link := { k.link with connected := false } } :=
  ⟨rfl, rfl, rfl, rfl, rfl, rfl, rfl, rfl, rfl, rfl⟩

theorem alike_down (k : Keeper) (level : Level) (message : String) :
    Alike k (k.down level message) :=
  ⟨rfl, rfl, rfl, rfl, rfl, rfl, rfl, rfl, rfl, rfl⟩

theorem alike_modifySocket (k : Keeper) (socket : Nat) (f : Socket → Socket) :
    Alike k (k.modifySocket socket f) :=
  ⟨rfl, rfl, rfl, rfl, rfl, rfl, rfl, rfl, rfl, by simp [modifySocket]⟩

theorem alike_release (k : Keeper) : Alike k k.release := by
  cases h : k.live with
  | none =>
    rw [release_of_none h]
    exact .refl k
  | some socket =>
    rw [release_of_some h]
    exact ⟨rfl, rfl, rfl, rfl, rfl, rfl, rfl, rfl, rfl, by simp [closeSocket, modifySocket]⟩

theorem alike_readNext? {k k' : Keeper} {socket : Nat} {e : SocketEvent}
    (h : k.readNext? socket = some (e, k')) : Alike k k' := by
  obtain ⟨_, _, _, _, rfl⟩ := readNext?_eq h
  exact alike_modifySocket k socket _

/-- After a failed attempt of the current run: a retry is armed, or its delay is too long for a
duration, or the report of it fails. -/
inductive Retry (k : Keeper) (run : Nat) : Keeper → Prop where
  | armed {share : Binary64} {delay : Duration}
      (delayed : k.policy.delay? k.link.failed.attempt share = some delay) :
      Retry k run (({ k with link := k.link.failed.retrying delay }.told
        [.log .info (retryMessage delay k.link.failed.attempt)]).setPhase run
          (.sleeping (k.clock + delay.nanos)))
  | overflow {share : Binary64} (delayed : k.policy.delay? k.link.failed.attempt share = none) :
      Retry k run ({ k with link := k.link.failed }.setPhase run .ended)
  | failed (delay : Duration) (fails : k.logFails = some 0) :
      Retry k run ({ k with link := k.link.failed.retrying delay, logFails := none }.setPhase run
        .ended)

/-- The world once the current run has registered a socket that has opened. -/
def registered (k : Keeper) (run socket : Nat) : Keeper :=
  { ({ k.openSocket socket with link := k.link.opened }.told
      [.connected true, .log .info "Connected to status channel"]) with
    live := some socket }.setPhase run (.reading socket)

/-- The world once the current run has taken up a frame. -/
def heard (k : Keeper) (now text : String) : Keeper :=
  { k with unknownCodes := k.unknownCodes + (Frame.read now text).unknownCodes }.told
    (Frame.read now text).signals

/-- What a run, which stands as `r`, can do in its turn. -/
inductive Turn (k : Keeper) (now : String) (run : Nat) (r : Run) : Keeper → Prop where
  /-- The run before it has ended. -/
  | resumed {earlier : Nat} (phase : r.phase = .waiting earlier)
      (ended : k.hasEnded earlier = true) :
      Turn k now run r (k.setPhase run .attempting)
  /-- There is no base URL to be had. -/
  | unasked (phase : r.phase = .attempting) (fails : k.urlFails = true) :
      Turn k now run r ({ k with urlFails := false }.setPhase run .ended)
  | dialled {url : Url} (phase : r.phase = .attempting) (current : k.isCurrent run = true)
      (channel : Channel.url k.baseUrl = .ok url) :
      Turn k now run r ((k.told [.log .info ("Connecting to " ++ url.text)]).dial run url)
  /-- The base URL has no channel. -/
  | rejected {fault : Channel.Fault} {k' : Keeper} (phase : r.phase = .attempting)
      (current : k.isCurrent run = true) (channel : Channel.url k.baseUrl = .error fault)
      (retry : Retry (k.told [.log .error fault.message]) run k') :
      Turn k now run r k'
  | refused {fault : ConnectFault} {k' : Keeper}
      (phase : r.phase = .connecting (some (.refused fault))) (current : k.isCurrent run = true)
      (retry : Retry (k.down .error ("Connection failed: " ++ fault.message)) run k') :
      Turn k now run r k'
  | registered {socket : Nat} {s : Socket}
      (phase : r.phase = .connecting (some (.accepted socket))) (current : k.isCurrent run = true)
      (found : k.sockets[socket]? = some s) (free : s.gated = false) :
      Turn k now run r (k.registered run socket)
  /-- The socket has opened for a run that is over. -/
  | late {socket : Nat} {s : Socket} (phase : r.phase = .connecting (some (.accepted socket)))
      (outdated : k.isCurrent run = false) (found : k.sockets[socket]? = some s)
      (free : s.gated = false) :
      Turn k now run r (((k.openSocket socket).closeSocket socket).drain run socket)
  | heard {socket : Nat} {text : String} {k₁ : Keeper} (phase : r.phase = .reading socket)
      (current : k.isCurrent run = true) (read : k.readNext? socket = some (.text text, k₁)) :
      Turn k now run r (k₁.heard now text)
  | erred {socket : Nat} {message : String} {k₁ : Keeper} (phase : r.phase = .reading socket)
      (current : k.isCurrent run = true) (read : k.readNext? socket = some (.error message, k₁)) :
      Turn k now run r (k₁.down .error ("Connection error: " ++ message))
  | closed {socket : Nat} {reason : Option String} {k₁ k' : Keeper}
      (phase : r.phase = .reading socket) (current : k.isCurrent run = true)
      (read : k.readNext? socket = some (.closed reason, k₁))
      (retry : Retry (k₁.release.down .warn (closedMessage reason)) run k') :
      Turn k now run r k'
  /-- The socket of a run that is over has closed. -/
  | dropped {socket : Nat} {reason : Option String} {k₁ : Keeper}
      (phase : r.phase = .reading socket) (outdated : k.isCurrent run = false)
      (read : k.readNext? socket = some (.closed reason, k₁)) :
      Turn k now run r (k₁.release.setPhase run .ended)
  /-- A run that is over stops reading; what it has just read is lost. -/
  | left {socket : Nat} {k₁ : Keeper} (phase : r.phase = .reading socket)
      (outdated : r.cancelled = true ∨ k.isCurrent run = false)
      (read : k₁ = k ∨ ∃ e, k.readNext? socket = some (e, k₁)) :
      Turn k now run r (k₁.leave run socket)
  /-- An event of a socket that is to be acknowledged is lost. -/
  | skipped {socket until_ : Nat} {e : SocketEvent} {k₁ : Keeper}
      (phase : r.phase = .draining socket until_) (read : k.readNext? socket = some (e, k₁)) :
      Turn k now run r k₁
  /-- The socket has acknowledged the close, or was waited for long enough. -/
  | drained {socket until_ : Nat} {k₁ : Keeper} (phase : r.phase = .draining socket until_)
      (read : (k₁ = k ∧ until_ ≤ k.clock) ∨
        ∃ reason, k.readNext? socket = some (.closed reason, k₁)) :
      Turn k now run r (k₁.setPhase run .ended)
  /-- A run that is over has nothing to close. -/
  | quit (phase : r.phase = .attempting ∨ (∃ dial, r.phase = .connecting dial) ∨
        ∃ until_, r.phase = .sleeping until_)
      (outdated : r.cancelled = true ∨ k.isCurrent run = false) :
      Turn k now run r (k.setPhase run .ended)
  /-- The retry is due. -/
  | woken {until_ : Nat} (phase : r.phase = .sleeping until_) (due : until_ ≤ k.clock)
      (current : k.isCurrent run = true) :
      Turn k now run r ({ k with link := k.link.retryFired }.setPhase run .attempting)
  /-- A report fails in the middle of the step. -/
  | failed {k' : Keeper} (phase : r.phase.reports = true) (current : k.isCurrent run = true)
      (fails : k.logFails ≠ none) (rest : Alike k k')
      (others : ∀ socket, r.phase.socket? ≠ some socket → k'.unread socket = k.unread socket) :
      Turn k now run r (k'.setPhase run .ended)

/-! ## Every step is a turn -/

section
variable {k k' : Keeper} {now : String} {run : Nat} {r : Run} {share : Binary64}

theorem logFails_readNext? {socket : Nat} {e : SocketEvent}
    (h : k.readNext? socket = some (e, k')) : k'.logFails = k.logFails := by
  obtain ⟨_, _, _, _, rfl⟩ := readNext?_eq h
  rfl

/-- A run that is over arms no retry. -/
theorem conclude_armRetry_over (outdated : k.isCurrent run = false) (share : Binary64) :
    conclude run ((.ok k : Effect) >>= fun k => k.armRetry run share) = k.setPhase run .ended := by
  show conclude run (k.armRetry run share) = _
  simp [armRetry, outdated, conclude]

theorem wanted_of_isCurrent (current : k.isCurrent run = true) : k.link.wanted = true := by
  simp only [isCurrent, Link.isCurrent, Bool.and_eq_true] at current
  exact current.1

/-- The current run arms a retry, if that can be done. -/
theorem retry_armRetry (current : k.isCurrent run = true) (share : Binary64) :
    Retry k run (conclude run (k.armRetry run share)) := by
  unfold armRetry
  rw [if_pos current, Link.closed_of_wanted (wanted_of_isCurrent current)]
  cases delayed : k.policy.delay? k.link.failed.attempt share with
  | none => exact .overflow delayed
  | some delay =>
    simp only [reportLog]
    rcases report_cases { k with link := k.link.failed.retrying delay }
      (.log .info (retryMessage delay (k.link.failed.retrying delay).attempt)) with
      arrived | ⟨_, fails, failed⟩
    · rw [arrived]
      exact .armed delayed
    · rw [failed]
      exact .failed delay fails

/-- A step goes on once its reports have arrived, or is abandoned at the one that fails. -/
theorem turn_reportAll_bind {k₀ : Keeper} {signals : List Signal} {f : Keeper → Effect}
    (phase : r.phase.reports = true) (current : k.isCurrent run = true) (rest : Alike k k₀)
    (same : k₀.logFails = k.logFails)
    (others : ∀ socket, r.phase.socket? ≠ some socket → k₀.unread socket = k.unread socket)
    (arrived : Turn k now run r (conclude run (f (k₀.told signals)))) :
    Turn k now run r (conclude run (k₀.reportAll signals >>= f)) := by
  rcases conclude_reportAll_bind k₀ signals run f with all | ⟨said, fails, broken⟩
  · rw [all]
    exact arrived
  · rw [broken]
    exact .failed phase current (same ▸ fails) (rest.trans (alike_broken k₀ said)) others

theorem turn_attempt (phase : r.phase = .attempting) (share : Binary64) :
    Turn k now run r (conclude run (k.attempt run share)) := by
  have reports : r.phase.reports = true := by rw [phase]; rfl
  unfold attempt
  cases fails : k.urlFails with
  | true => exact .unasked phase fails
  | false =>
    simp only [Bool.false_eq_true, if_false]
    cases channel : Channel.url k.baseUrl with
    | ok url =>
      cases current : k.isCurrent run with
      | true =>
        simp only [if_true, reportLog_eq]
        exact turn_reportAll_bind reports current (.refl k) rfl (fun _ _ => rfl)
          (.dialled phase current channel)
      | false => exact .quit (.inl phase) (.inr current)
    | error fault =>
      cases current : k.isCurrent run with
      | true =>
        simp only [ifCurrent, current, if_true, reportLog_eq]
        exact turn_reportAll_bind reports current (.refl k) rfl (fun _ _ => rfl)
          (.rejected phase current channel (retry_armRetry (by exact current) share))
      | false =>
        simp only [ifCurrent, current, Bool.false_eq_true, if_false]
        rw [conclude_armRetry_over current]
        exact .quit (.inl phase) (.inr current)

theorem turn_dialled? {dial : Option Dial} {effect : Effect} (phase : r.phase = .connecting dial)
    (h : k.dialled? run share dial = some effect) : Turn k now run r (conclude run effect) := by
  match dial with
  | none => cases h
  | some (.refused fault) =>
    simp only [dialled?, Option.some.injEq] at h
    subst h
    cases current : k.isCurrent run with
    | true =>
      simp only [ifCurrent, current, if_true, reportDown]
      exact turn_reportAll_bind (by rw [phase]; rfl) current (alike_disconnect k) rfl
        (fun _ _ => rfl) (.refused phase current (retry_armRetry (by exact current) share))
    | false =>
      simp only [ifCurrent, current, Bool.false_eq_true, if_false]
      rw [conclude_armRetry_over current]
      exact .quit (.inr (.inl ⟨_, phase⟩)) (.inr current)
  | some (.accepted socket) =>
    simp only [dialled?] at h
    split at h
    · next s found =>
      split at h
      · cases h
      · next free =>
        cases h
        have free : s.gated = false := by simpa using free
        unfold register
        cases current : k.isCurrent run with
        | true =>
          rw [if_pos (by rw [isCurrent_modifySocket, current])]
          refine turn_reportAll_bind (by rw [phase]; rfl) current
            ⟨rfl, rfl, rfl, rfl, rfl, rfl, rfl, rfl, rfl, ?_⟩ rfl
            (fun other _ => unread_openSocket k socket other)
            (.registered phase current found free)
          simp [modifySocket]
        | false =>
          rw [if_neg (by rw [isCurrent_modifySocket, current]; decide)]
          exact .late phase current found free
    · cases h

theorem turn_handle {socket : Nat} {e : SocketEvent} {k₁ : Keeper}
    (phase : r.phase = .reading socket) (read : k.readNext? socket = some (e, k₁)) (share : Binary64) :
    Turn k now run r (conclude run (k₁.handle now run socket share e)) := by
  have same : k₁.isCurrent run = k.isCurrent run := isCurrent_readNext? read run
  have reports : r.phase.reports = true := by rw [phase]; rfl
  have rest := alike_readNext? read
  have fails := logFails_readNext? read
  have others : ∀ other, r.phase.socket? ≠ some other → k₁.unread other = k.unread other := by
    intro other ne
    rw [phase] at ne
    exact unread_readNext? read fun h => ne (congrArg some h)
  unfold handle
  cases current : k.isCurrent run with
  | true =>
    cases e with
    | text text =>
      simp only [same, current, if_true, dispatch]
      have heard : Turn k now run r (k₁.heard now text) := .heard phase current read
      rcases reportAll_cases { k₁ with
          unknownCodes := k₁.unknownCodes + (Frame.read now text).unknownCodes }
        (Frame.read now text).signals with arrived | ⟨said, broken, failed⟩
      · rw [arrived]
        exact heard
      · rw [failed]
        exact .failed reports current (fails ▸ broken)
          (rest.trans ⟨rfl, rfl, rfl, rfl, rfl, rfl, rfl, rfl, rfl, rfl⟩) others
    | error message =>
      simp only [same, current, if_true, reportDown]
      rcases reportAll_cases { k₁ with link := { k₁.link with connected := false } }
        [.connected false, .log .error ("Connection error: " ++ message)] with
        arrived | ⟨said, broken, failed⟩
      · rw [arrived]
        exact .erred phase current read
      · rw [failed]
        exact .failed reports current (fails ▸ broken)
          ((rest.trans (alike_disconnect k₁)).trans (alike_broken _ said)) others
    | closed reason =>
      simp only [ifCurrent, isCurrent_release, same, current, if_true, reportDown]
      refine turn_reportAll_bind reports current
        ((rest.trans (alike_release k₁)).trans (alike_disconnect _)) ?_
        (fun other ne => (unread_release k₁ other).trans (others other ne))
        (.closed phase current read (retry_armRetry ?_ share))
      · rw [release_eq]
        exact fails
      · rw [isCurrent_down, isCurrent_release, same, current]
  | false =>
    cases e with
    | text text =>
      simp only [same, current, Bool.false_eq_true, if_false]
      exact .left phase (.inr current) (.inr ⟨_, read⟩)
    | error message =>
      simp only [same, current, Bool.false_eq_true, if_false]
      exact .left phase (.inr current) (.inr ⟨_, read⟩)
    | closed reason =>
      simp only [ifCurrent, isCurrent_release, same, current, Bool.false_eq_true, if_false]
      rw [conclude_armRetry_over]
      · exact .dropped phase current read
      · rw [isCurrent_release, same, current]

/-- **Every step is a turn**, whatever the choice. -/
theorem turn_of_advance {choice : Choice} (h : k.runs[run]? = some r)
    (step : k.advance now run choice = some k') : Turn k now run r k' := by
  simp only [advance, h, Option.map_eq_some_iff] at step
  obtain ⟨effect, step, rfl⟩ := step
  unfold effect? at step
  split at step
  case h_1 earlier phase =>
    -- It waits for an earlier run.
    split at step
    · next ended =>
      cases step
      exact .resumed phase ended
    · cases step
  case h_2 phase =>
    -- It is about to make an attempt, whether it is cancelled or not.
    cases step
    exact turn_attempt phase choice.share
  case h_3 dial phase =>
    -- Its attempt has ended, or it is cancelled; of both the choice takes up one.
    split at step
    · next effect' dialled =>
      split at step
      · next stopped =>
        cases step
        simp only [Bool.and_eq_true] at stopped
        exact .quit (.inr (.inl ⟨_, phase⟩)) (.inl stopped.1)
      · cases step
        exact turn_dialled? phase dialled
    · split at step
      · next cancelled =>
        cases step
        exact .quit (.inr (.inl ⟨_, phase⟩)) (.inl cancelled)
      · cases step
  case h_4 socket phase =>
    -- There is something to read, or it is cancelled.
    unfold read? at step
    split at step
    · next e k₁ read =>
      split at step
      · next stopped =>
        cases step
        simp only [Bool.and_eq_true] at stopped
        exact .left phase (.inl stopped.1) (.inl rfl)
      · cases step
        exact turn_handle phase read choice.share
    · split at step
      · next cancelled =>
        cases step
        exact .left phase (.inl cancelled) (.inl rfl)
      · cases step
  case h_5 socket until_ phase =>
    -- No cancelling disturbs a socket that is drained.
    unfold drain? at step
    split at step
    · next reason k₁ read =>
      cases step
      exact .drained phase (.inr ⟨reason, read⟩)
    · next e k₁ _ read =>
      cases step
      exact .skipped phase read
    · split at step
      · next due =>
        cases step
        exact .drained phase (.inl ⟨rfl, due⟩)
      · cases step
  case h_6 until_ phase =>
    -- The retry is due, or it is cancelled.
    unfold wake? at step
    simp only [Bool.and_eq_true, Bool.not_eq_true', decide_eq_true_eq] at step
    split at step
    · next stopped =>
      cases step
      exact .quit (.inr (.inr ⟨_, phase⟩)) (.inl stopped.1)
    · split at step
      · next due =>
        split at step
        · next current =>
          cases step
          exact .woken phase due current
        · next outdated =>
          cases step
          exact .quit (.inr (.inr ⟨_, phase⟩)) (.inr (by simpa using outdated))
      · cases step
  case h_7 phase => cases step

end

end Keeper

end VoiceTicket
