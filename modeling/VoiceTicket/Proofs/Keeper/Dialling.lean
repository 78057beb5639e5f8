/-
  Which URLs are dialled.

  1. **Data** — the askings of a history (`Keeper.askings`), each with what it found;
     `Keeper.retried` is the world after an attempt of the current run that has failed.

  2. **Specification** — `dialled_eq_askings`: where nothing is made to fail, the URLs that were
     dialled are the channels of the base URLs that the current runs have found, in order.  A base
     URL without a channel is a failure like a refused attempt.  To change the base URL changes
     nothing but what the next asking finds.

  3. **The crux (`dialled_move`)** — to ask and to dial is one step, so each asking tells what was
     dialled in it, and no other step dials.
-/
import VoiceTicket.Proofs.Keeper.Rebasing

namespace VoiceTicket

/-- The URL that is dialled after an asking, if any: that of the current run, if it has found a base
URL with a channel. -/
def Asking.url? (a : Asking) : Option Url :=
  if a.current then a.answer.bind fun base => (Channel.url base).toOption else none

namespace Keeper

variable {k k' : Keeper} {now : String} {run : Nat} {r : Run}

/-! ## An attempt -/

/-- The world once an attempt of the current run has failed: this is said of it, the failure is
counted, and a retry is armed. -/
def retried (k : Keeper) (run : Nat) (said : List Signal) (delay : Duration) : Keeper :=
  ({ k with link := k.link.failed.retrying delay }.told
    (said ++ [Signal.log .info (retryMessage delay k.link.failed.attempt)])).setPhase run
      (.sleeping (k.clock + delay.nanos))

theorem retried_told (k : Keeper) (run : Nat) (said : List Signal) (delay : Duration) :
    (k.told said).retried run [] delay = k.retried run said delay := by
  show ((({ k with link := k.link.failed.retrying delay } : Keeper).told said).told
    [.log .info (retryMessage delay k.link.failed.attempt)]).setPhase run _ = _
  rw [told_told]
  rfl

theorem retried_down (k : Keeper) (run : Nat) (level : Level) (message : String)
    (delay : Duration) : (k.down level message).retried run [] delay =
      k.retried run [.connected false, .log level message] delay :=
  retried_told { k with link := { k.link with connected := false } } run
    [.connected false, .log level message] delay

theorem armRetry_of_delay (current : k.isCurrent run = true) (heeded : k.logFails = none)
    {share : Binary64} {delay : Duration}
    (delayed : k.policy.delay? k.link.failed.attempt share = some delay) :
    k.armRetry run share = .ok (k.retried run [] delay) := by
  have closes : k.link.closed k.policy share = (.armed delay, k.link.failed.retrying delay) := by
    rw [Link.closed_of_wanted (wanted_of_isCurrent current), delayed]
  have arrives := reportLog_of_heeded
    (k := { k with link := k.link.failed.retrying delay }) heeded .info
    (retryMessage delay k.link.failed.attempt)
  unfold armRetry
  rw [if_pos current, closes]
  show (({ k with link := k.link.failed.retrying delay } : Keeper).reportLog .info
    (retryMessage delay k.link.failed.attempt) >>= _) = _
  rw [arrives]
  rfl

/-- What a run does that is about to make an attempt. -/
theorem move_go_of_attempting (phase : k.phase? run = some .attempting) (choice : Choice)
    (now : String) :
    k.move (.go run choice now) = conclude run (k.attempt run choice.share) := by
  obtain ⟨r, h, phase⟩ := Option.map_eq_some_iff.1 phase
  simp only [move_go_of_run h, effect?, phase]
  rfl

/-- A run that is over makes no attempt. -/
theorem attempt_of_over (intact : Intact k) (outdated : k.isCurrent run = false)
    (share : Binary64) : conclude run (k.attempt run share) = k.setPhase run .ended := by
  unfold attempt
  rw [intact.asked, if_neg (by decide)]
  cases channel : Channel.url k.baseUrl with
  | ok url => simp [outdated, conclude]
  | error fault =>
    simp only [ifCurrent, outdated, Bool.false_eq_true, if_false]
    exact conclude_armRetry_over outdated share

theorem attempt_of_channel (intact : Intact k) (current : k.isCurrent run = true) {url : Url}
    (channel : Channel.url k.baseUrl = .ok url) (share : Binary64) :
    k.attempt run share =
      .ok ((k.told [.log .info ("Connecting to " ++ url.text)]).dial run url) := by
  unfold attempt
  rw [intact.asked, if_neg (by decide), channel]
  simp only [current, if_true, reportLog_of_heeded intact.heeded]
  rfl

theorem attempt_of_fault (intact : Intact k) (current : k.isCurrent run = true)
    {fault : Channel.Fault} (channel : Channel.url k.baseUrl = .error fault) (share : Binary64) :
    k.attempt run share = (k.told [.log .error fault.message]).armRetry run share := by
  unfold attempt
  rw [intact.asked, if_neg (by decide), channel]
  simp only [ifCurrent, current, if_true, reportLog_of_heeded intact.heeded]
  rfl

/-- **A base URL without a channel** is said, counted and retried. -/
theorem move_of_rejected (intact : Intact k) (current : k.isCurrent run = true)
    (phase : k.phase? run = some .attempting) {fault : Channel.Fault}
    (channel : Channel.url k.baseUrl = .error fault) {choice : Choice} {delay : Duration}
    (delayed : k.policy.delay? k.link.failed.attempt choice.share = some delay) (now : String) :
    k.move (.go run choice now) = k.retried run [.log .error fault.message] delay := by
  have armed := armRetry_of_delay (k := k.told [.log .error fault.message]) current
    (heeded_told intact.heeded) delayed
  rw [move_go_of_attempting phase, attempt_of_fault intact current channel, armed, retried_told]
  rfl

/-- **A refused attempt** is said, counted and retried. -/
theorem move_of_refused (intact : Intact k) (current : k.isCurrent run = true)
    (attached : ∀ r, k.runs[run]? = some r → r.cancelled = false) {fault : ConnectFault}
    (phase : k.phase? run = some (.connecting (some (.refused fault)))) {choice : Choice}
    {delay : Duration}
    (delayed : k.policy.delay? k.link.failed.attempt choice.share = some delay) (now : String) :
    k.move (.go run choice now) =
      k.retried run [.connected false, .log .error ("Connection failed: " ++ fault.message)]
        delay := by
  obtain ⟨r, h, phase⟩ := Option.map_eq_some_iff.1 phase
  have armed := armRetry_of_delay
    (k := k.down .error ("Connection failed: " ++ fault.message)) current
    (heeded_down intact.heeded) delayed
  have effect : k.dialled? run choice.share (some (.refused fault)) = some (.ok (k.retried run
      [.connected false, .log .error ("Connection failed: " ++ fault.message)] delay)) := by
    simp only [dialled?, ifCurrent, current, if_true, reportDown_of_heeded intact.heeded]
    rw [← retried_down, ← armed]
    rfl
  simp only [move_go_of_run h, effect?, phase, effect, attached r h, Bool.false_and,
    Bool.false_eq_true, if_false]
  rfl

/-! ## What is dialled -/

/-- A run that is about to make an attempt makes one, or ends. -/
theorem dialled_of_attempting (sound : Sound k) (phase : k.phase? run = some .attempting)
    (choice : Choice) (now : String) : (k.move (.go run choice now)).dialled =
      k.dialled ++ ((k.asking? (.go run choice now)).bind Asking.url?).toList := by
  have asks : (k.asking? (.go run choice now)).bind Asking.url? =
      if k.isCurrent run then (Channel.url k.baseUrl).toOption else none := by
    simp [asking?, phase, Asking.url?, sound.intact.asked]
  rw [asks, move_go_of_attempting phase]
  cases current : k.isCurrent run with
  | false =>
    rw [attempt_of_over sound.intact current]
    simp [setPhase]
  | true =>
    cases channel : Channel.url k.baseUrl with
    | ok url =>
      rw [attempt_of_channel sound.intact current channel]
      rfl
    | error fault =>
      have retry := retry_armRetry (k := k.told [.log .error fault.message]) current choice.share
      rw [attempt_of_fault sound.intact current channel, retry.dialled_eq]
      simp [told, Except.toOption]

/-- A move dials the channel of what the current run finds in it, and nothing else. -/
theorem dialled_move (sound : Sound k) (m : Move) :
    (k.move m).dialled = k.dialled ++ ((k.asking? m).bind Asking.url?).toList := by
  rcases m.go_or_still with ⟨run, choice, now, rfl⟩ | still
  · by_cases phase : k.phase? run = some .attempting
    · exact dialled_of_attempting sound phase choice now
    · have silent : k.asking? (.go run choice now) = none := by simp [asking?, phase]
      rw [silent]
      show _ = k.dialled ++ []
      rw [List.append_nil]
      rcases move_go k run choice now with same | ⟨r, h, turn⟩
      · rw [same]
      · -- Only an attempt dials, so a run that dials was about to make one.
        by_contra dials
        apply phase
        rw [phase?_of_run h, turn.attempting_of_dialled dials]
  · rw [asking?_of_still still]
    show _ = k.dialled ++ []
    rw [List.append_nil]
    have moved := moved k m
    generalize k.move m = k' at *
    cases moved with
    | ignored | begun | stopped | handedOver => rfl
    | waits | turns => exact absurd rfl (still _ _ _)
    | aside aside => exact aside.dialled

/-- **What was dialled are the channels of what the current runs have found**, in order. -/
theorem dialled_after (sound : Sound k) {moves : List Move}
    (whole : ∀ m ∈ moves, m.breaks = false) :
    (k.after moves).dialled = k.dialled ++ (k.askings moves).filterMap Asking.url? := by
  induction moves generalizing k with
  | nil => simp [askings]
  | cons m moves ih =>
    have first := sound.move (whole m List.mem_cons_self)
    have rest := ih first fun m' mem => whole m' (List.mem_cons_of_mem m mem)
    rw [after_cons, rest, dialled_move sound, askings, List.filterMap_append, List.append_assoc]
    cases k.asking? m with
    | none => rfl
    | some a => cases url : a.url? <;> simp [url]

/-! ## The base URL of each attempt -/

/-- What a keeper has dialled that was new with a base URL and has come through some moves, and what
its attempts do next. -/
structure Dials (k : Keeper) (policy : Policy) (baseUrl : String) (moves : List Move) : Prop where
  /-- Each URL is the channel of the base URL that a current run has found, in order. -/
  dialled : k.dialled = ((new policy baseUrl).askings moves).filterMap Asking.url?
  /-- What an attempt finds is the base URL that was set last. -/
  finds : ∀ run choice now, k.phase? run = some .attempting →
    k.asking? (.go run choice now) = some ⟨run, k.isCurrent run, some (lastUrl baseUrl moves)⟩
  /-- A run that is over asks too, but then ends in silence. -/
  outdated : ∀ run choice now, k.phase? run = some .attempting → k.isCurrent run = false →
    Silent k (k.move (.go run choice now)) ∧ (k.move (.go run choice now)).hasEnded run = true
  /-- A base URL without a channel is said in the log and nowhere else, and is counted and
  retried. -/
  rejected : ∀ run choice now, k.phase? run = some .attempting →
    ∀ fault delay, k.isCurrent run = true → Channel.url (lastUrl baseUrl moves) = .error fault →
      k.policy.delay? k.link.failed.attempt choice.share = some delay →
        k.move (.go run choice now) = k.retried run [.log .error fault.message] delay
  /-- So is an attempt that is refused. -/
  refused : ∀ run choice now fault delay, k.isCurrent run = true →
    k.phase? run = some (.connecting (some (.refused fault))) →
      k.policy.delay? k.link.failed.attempt choice.share = some delay →
        k.move (.go run choice now) = k.retried run
          [.connected false, .log .error ("Connection failed: " ++ fault.message)] delay
  /-- To set the base URL changes nothing else. -/
  edited : ∀ url, k.move (.act (.setBaseUrl url) rfl) = k.rebased url
  /-- The next asking comes at the same move. -/
  asks : ∀ url later, (k.rebased url).askings later = [] ↔ k.askings later = []
  /-- Up to there, all goes on as if the base URL had not been set. -/
  unasked : ∀ url later, k.askings later = [] →
    (k.rebased url).after later = (k.after later).rebased (lastUrl url later)

/-- **Each attempt has its own base URL**, where nothing is made to fail. -/
theorem dialled_eq_askings (policy : Policy) (baseUrl : String) {moves : List Move}
    (whole : ∀ m ∈ moves, m.breaks = false) :
    ((new policy baseUrl).after moves).Dials policy baseUrl moves := by
  have sound : Sound ((new policy baseUrl).after moves) := sound_after policy baseUrl whole
  have base : ((new policy baseUrl).after moves).baseUrl = lastUrl baseUrl moves :=
    baseUrl_after _ moves
  have dialled := dialled_after (sound_new policy baseUrl) whole
  generalize (new policy baseUrl).after moves = k at sound base dialled
  refine ⟨dialled, ?finds, ?outdated, ?rejected, ?refused, fun url => rfl, ?asks, ?unasked⟩
  case finds =>
    intro run choice now phase
    rw [← base]
    simp [asking?, phase, sound.intact.asked]
  case outdated =>
    intro run choice now phase outdated
    rw [move_go_of_attempting phase, attempt_of_over sound.intact outdated]
    refine ⟨⟨rfl, rfl, rfl, rfl, id⟩, ?_⟩
    exact hasEnded_iff.mpr (Or.inr (phase?_setPhase phase .ended))
  case rejected =>
    intro run choice now phase fault delay current channel delayed
    rw [← base] at channel
    exact move_of_rejected sound.intact current phase channel delayed now
  case refused =>
    intro run choice now fault delay current phase delayed
    have attached : ∀ r, k.runs[run]? = some r → r.cancelled = false :=
      fun r h => sound.attached run r current h
    exact move_of_refused sound.intact current attached phase delayed now
  case asks =>
    intro url later
    exact (after_rebased k url later).1
  case unasked =>
    intro url later
    exact (after_rebased k url later).2

/-- A base URL with a foreign scheme is rejected and retried; another one is set while the retry is
armed, and dialled; the next is set while the socket is open, and is not. -/
theorem dialled_eq_askings_changed :
    let go : Move := .go 0 .plain ""
    let set (url : String) : Move := .act (.setBaseUrl url) rfl
    let begin : List Move := [.act (.accept false false) rfl, .start]
    let moves := begin ++ [go, set "http://b", .pass (2 * Duration.perSecond), go, go, go,
      set "http://c", go]
    let k := (new .standard "ftp://a").after begin
    let k' := (new .standard "ftp://a").after moves
    k.move go = k.retried 0 [.log .error
      "Unsupported URL scheme 'ftp' (expected http, https, ws or wss)"] (.ofSeconds 1) ∧
    k'.openCount = 1 ∧ k'.baseUrl = "http://c" ∧ k'.dialled.map Url.text = ["ws://b/ws/status"] ∧
      k'.dialled = ((new .standard "ftp://a").askings moves).filterMap Asking.url? := by
  intro go set begin moves k k'
  have begins : ∀ m ∈ begin, m.breaks = false := by decide
  have whole : ∀ m ∈ moves, m.breaks = false := by decide
  have dials := dialled_eq_askings .standard "ftp://a" begins
  have phase : k.phase? 0 = some .attempting := by decide +kernel
  have rejected : k.move go = k.retried 0 [.log .error
      (Channel.Fault.unsupportedScheme "ftp").message] (.ofSeconds 1) := by
    apply dials.rejected 0 .plain "" phase
    all_goals decide +kernel
  have dialled := (dialled_eq_askings .standard "ftp://a" whole).dialled
  refine ⟨rejected.trans ?_, ?_, ?_, ?_, dialled⟩
  · rfl
  all_goals decide +kernel

end Keeper

end VoiceTicket
