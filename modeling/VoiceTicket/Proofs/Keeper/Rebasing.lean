/-
  When the base URL matters.

  1. **Data** — `Keeper.rebased` is the same world with another base URL, `Keeper.rebase` the same
     effect.

  2. **Specification** — nobody but who sets it changes the base URL (`baseUrl_after`).  With
     another one all goes the same way up to the next asking, and that comes at the same move
     (`after_rebased`).

  3. **The crux** — the base URL is looked at in one phase only, that of a run which is about to
     make an attempt: every step out of another phase commutes with `rebased` (`advance_rebased`).
-/
import VoiceTicket.Proofs.Keeper.Asking

namespace VoiceTicket.Keeper

variable {k k' : Keeper} {now : String} {run : Nat} {r : Run} {url : String}

/-! ## Who changes it -/

theorem Retry.baseUrl_eq (retry : Retry k run k') : k'.baseUrl = k.baseUrl := by
  cases retry <;> rfl

theorem Turn.baseUrl_eq (turn : Turn k now run r k') : k'.baseUrl = k.baseUrl := by
  cases turn with
  | resumed | unasked | dialled | registered | late | quit | woken => rfl
  | rejected _ _ _ retry | refused _ _ retry => exact retry.baseUrl_eq
  | heard _ _ read | erred _ _ read | skipped _ read => exact (alike_readNext? read).baseUrl
  | @closed _ _ k₁ _ _ _ read retry =>
    have released := (alike_readNext? read).trans (alike_release k₁)
    exact retry.baseUrl_eq.trans released.baseUrl
  | @dropped _ _ k₁ _ _ read => exact ((alike_readNext? read).trans (alike_release k₁)).baseUrl
  | @left _ k₁ _ _ read =>
    rcases read with rfl | ⟨e, read⟩
    · exact (alike_release _).baseUrl
    · exact ((alike_readNext? read).trans (alike_release k₁)).baseUrl
  | drained _ read =>
    rcases read with ⟨rfl, _⟩ | ⟨reason, read⟩
    · rfl
    · exact (alike_readNext? read).baseUrl
  | failed _ _ _ rest => exact rest.baseUrl

theorem baseUrl_move (k : Keeper) (m : Move) : (k.move m).baseUrl = lastUrl k.baseUrl [m] := by
  cases m with
  | handOver | pass => rfl
  | go run choice now =>
    rcases move_go k run choice now with same | ⟨r, h, turn⟩
    · rw [same]
      rfl
    · exact turn.baseUrl_eq
  | act action instant =>
    cases action with
    | start =>
      show k.start.2.baseUrl = k.baseUrl
      cases wanted : k.link.wanted with
      | true => rw [start_of_wanted wanted]
      | false => rw [start_of_unwanted wanted]; rfl
    | stop =>
      show k.stop.2.baseUrl = k.baseUrl
      rw [stop_eq]
      rfl
    | shutdown | wait => cases instant
    | _ => rfl

theorem lastUrl_cons (url : String) (m : Move) (moves : List Move) :
    lastUrl url (m :: moves) = lastUrl (lastUrl url [m]) moves := by
  cases m with
  | act action instant => cases action <;> rfl
  | handOver | go | pass => rfl

/-- The base URL is the one that was set last. -/
theorem baseUrl_after (k : Keeper) (moves : List Move) :
    (k.after moves).baseUrl = lastUrl k.baseUrl moves := by
  induction moves generalizing k with
  | nil => rfl
  | cons m moves ih => rw [after_cons, ih, baseUrl_move, ← lastUrl_cons]

/-! ## The same world with another one -/

/-- The same world with another base URL. -/
def rebased (k : Keeper) (url : String) : Keeper := { k with baseUrl := url }

@[simp] theorem rebased_live (k : Keeper) (url : String) : (k.rebased url).live = k.live := rfl

@[simp] theorem rebased_link (k : Keeper) (url : String) : (k.rebased url).link = k.link := rfl

@[simp] theorem rebased_policy (k : Keeper) (url : String) :
    (k.rebased url).policy = k.policy := rfl

@[simp] theorem rebased_runs (k : Keeper) (url : String) : (k.rebased url).runs = k.runs := rfl

@[simp] theorem rebased_sockets (k : Keeper) (url : String) :
    (k.rebased url).sockets = k.sockets := rfl

/-- The same effect in a world with another base URL. -/
def rebase (url : String) : Effect → Effect
  | .ok k => .ok (k.rebased url)
  | .error k => .error (k.rebased url)

theorem rebase_bind (effect : Effect) {f g : Keeper → Effect}
    (commutes : ∀ k, g (k.rebased url) = rebase url (f k)) :
    rebase url effect >>= g = rebase url (effect >>= f) := by
  cases effect with
  | ok k => exact commutes k
  | error k => rfl

theorem conclude_rebase (run : Nat) (effect : Effect) :
    conclude run (rebase url effect) = (conclude run effect).rebased url := by
  cases effect <;> rfl

/-! ## What a step is made of -/

theorem report_rebased (k : Keeper) (signal : Signal) :
    (k.rebased url).report signal = rebase url (k.report signal) := by
  have same : (k.rebased url).logFails = k.logFails := rfl
  cases signal with
  | log level message =>
    simp only [report, same]
    cases k.logFails with
    | none => rfl
    | some spared => cases spared <;> rfl
  | _ => simp [report, tell, rebase, rebased]

theorem reportAll_rebased (k : Keeper) (signals : List Signal) :
    (k.rebased url).reportAll signals = rebase url (k.reportAll signals) := by
  induction signals generalizing k with
  | nil => rfl
  | cons signal signals ih =>
    show (k.rebased url).report signal >>= _ = rebase url (k.report signal >>= _)
    rw [report_rebased, rebase_bind _ fun k => ih k]
    rfl

theorem reportDown_rebased (k : Keeper) (level : Level) (message : String) :
    (k.rebased url).reportDown level message = rebase url (k.reportDown level message) :=
  reportAll_rebased { k with link := { k.link with connected := false } } _

theorem ifCurrent_rebased (k : Keeper) (run : Nat) {f : Keeper → Effect}
    (commutes : ∀ k, f (k.rebased url) = rebase url (f k)) :
    (k.rebased url).ifCurrent run f = rebase url (k.ifCurrent run f) := by
  unfold ifCurrent
  rw [apply_ite (rebase url), commutes]
  rfl

theorem armRetry_rebased (k : Keeper) (run : Nat) (share : Binary64) :
    (k.rebased url).armRetry run share = rebase url (k.armRetry run share) := by
  unfold armRetry
  rw [apply_ite (rebase url)]
  refine if_congr Iff.rfl ?_ rfl
  rw [rebased_link, rebased_policy]
  rcases k.link.closed k.policy share with ⟨closing, link⟩
  cases closing with
  | unwanted | overflow => rfl
  | armed delay =>
    show ({ k with link }.rebased url).report _ >>= _ = _
    rw [report_rebased]
    exact rebase_bind _ fun k => rfl

theorem release_rebased (k : Keeper) : (k.rebased url).release = k.release.rebased url := by
  unfold release
  rw [rebased_live]
  cases k.live <;> rfl

theorem leave_rebased (k : Keeper) (run socket : Nat) :
    (k.rebased url).leave run socket = (k.leave run socket).rebased url := by
  unfold leave
  rw [release_rebased]
  rfl

theorem register_rebased (k : Keeper) (run socket : Nat) :
    (k.rebased url).register run socket = rebase url (k.register run socket) := by
  unfold register
  rw [apply_ite (rebase url)]
  refine if_congr Iff.rfl ?_ rfl
  let opened := k.modifySocket socket fun s => { s with opened := true }
  show ({ opened with link := opened.link.opened }.rebased url).reportAll _ >>= _ = _
  rw [reportAll_rebased]
  exact rebase_bind _ fun k => rfl

theorem readNext?_rebased (k : Keeper) (socket : Nat) : (k.rebased url).readNext? socket =
    (k.readNext? socket).map fun next => (next.1, next.2.rebased url) := by
  unfold readNext?
  rw [rebased_sockets]
  cases k.sockets[socket]? with
  | none => rfl
  | some s =>
    dsimp only
    cases s.next? <;> rfl

theorem handle_rebased (k : Keeper) (now : String) (run socket : Nat) (share : Binary64)
    (e : SocketEvent) : (k.rebased url).handle now run socket share e =
      rebase url (k.handle now run socket share e) := by
  cases e with
  | text text =>
    show (if k.isCurrent run then _ else _) = rebase url (if k.isCurrent run then _ else _)
    rw [apply_ite (rebase url), leave_rebased]
    refine if_congr Iff.rfl ?_ rfl
    exact reportAll_rebased { k with unknownCodes := k.unknownCodes +
      (Frame.read now text).unknownCodes } _
  | error message =>
    show (if k.isCurrent run then _ else _) = rebase url (if k.isCurrent run then _ else _)
    rw [apply_ite (rebase url), leave_rebased, reportDown_rebased]
    rfl
  | closed reason =>
    show (k.rebased url).release.ifCurrent run _ >>= _ =
      rebase url (k.release.ifCurrent run _ >>= _)
    rw [release_rebased, ifCurrent_rebased _ _ fun k => reportDown_rebased k _ _]
    exact rebase_bind _ fun k => armRetry_rebased k run share

theorem dialled?_rebased (k : Keeper) (run : Nat) (share : Binary64) (dial : Option Dial) :
    (k.rebased url).dialled? run share dial = (k.dialled? run share dial).map (rebase url) := by
  cases dial with
  | none => rfl
  | some dial =>
    cases dial with
    | refused fault =>
      show some ((k.rebased url).ifCurrent run _ >>= _) =
        some (rebase url (k.ifCurrent run _ >>= _))
      rw [ifCurrent_rebased _ _ fun k => reportDown_rebased k _ _]
      exact congrArg some (rebase_bind _ fun k => armRetry_rebased k run share)
    | accepted socket =>
      simp only [dialled?, register_rebased, rebased_sockets]
      cases k.sockets[socket]? with
      | none => rfl
      | some s =>
        show (if s.gated then _ else _) = Option.map _ (if s.gated then _ else _)
        split <;> rfl

theorem read?_rebased (k : Keeper) (now : String) (run socket : Nat) (cancelled : Bool)
    (choice : Choice) : (k.rebased url).read? now run socket cancelled choice =
      (k.read? now run socket cancelled choice).map (rebase url) := by
  simp only [read?, readNext?_rebased, leave_rebased]
  cases k.readNext? socket with
  | none => cases cancelled <;> rfl
  | some next =>
    simp only [Option.map_some, handle_rebased]
    split <;> rfl

theorem drain?_rebased (k : Keeper) (run socket until_ : Nat) :
    (k.rebased url).drain? run socket until_ = (k.drain? run socket until_).map (rebase url) := by
  simp only [drain?, readNext?_rebased]
  cases k.readNext? socket with
  | none =>
    show (if until_ ≤ k.clock then _ else _) = Option.map _ (if until_ ≤ k.clock then _ else _)
    split <;> rfl
  | some next =>
    rcases next with ⟨e, k'⟩
    cases e <;> rfl

theorem wake?_rebased (k : Keeper) (run until_ : Nat) (cancelled : Bool) (choice : Choice) :
    (k.rebased url).wake? run until_ cancelled choice =
      (k.wake? run until_ cancelled choice).map (rebase url) := by
  simp only [wake?, apply_ite (Option.map (rebase url))]
  rfl

/-! ## A step -/

theorem effect?_rebased (k : Keeper) (now : String) (run : Nat) (choice : Choice) {r : Run}
    (elsewhere : r.phase ≠ .attempting) : (k.rebased url).effect? now run choice r =
      (k.effect? now run choice r).map (rebase url) := by
  unfold effect?
  cases phase : r.phase with
  | waiting earlier =>
    show (if k.hasEnded earlier then _ else _) = Option.map _ (if k.hasEnded earlier then _ else _)
    split <;> rfl
  | attempting => exact absurd phase elsewhere
  | connecting dial =>
    simp only [dialled?_rebased]
    cases k.dialled? run choice.share dial with
    | none => cases r.cancelled <;> rfl
    | some effect => cases r.cancelled <;> cases choice.event <;> rfl
  | reading socket => exact read?_rebased k now run socket r.cancelled choice
  | draining socket until_ => exact drain?_rebased k run socket until_
  | sleeping until_ => exact wake?_rebased k run until_ r.cancelled choice
  | ended => rfl

/-- A step that does not ask for the base URL goes the same way whatever it is. -/
theorem advance_rebased (k : Keeper) (now : String) (run : Nat) (choice : Choice)
    (unasked : k.phase? run ≠ some .attempting) : (k.rebased url).advance now run choice =
      (k.advance now run choice).map (·.rebased url) := by
  unfold advance
  rw [rebased_runs]
  cases h : k.runs[run]? with
  | none => rfl
  | some r =>
    have elsewhere : r.phase ≠ .attempting := by
      intro phase
      apply unasked
      rw [phase?_of_run h, phase]
    have same : (k.rebased url).effect? now run choice r = _ :=
      effect?_rebased k now run choice elsewhere
    show ((k.rebased url).effect? now run choice r).map _ =
      ((k.effect? now run choice r).map _).map _
    rw [same]
    cases k.effect? now run choice r with
    | none => rfl
    | some effect => exact congrArg some (conclude_rebase run effect)

/-! ## A move and a history -/

theorem asking?_rebased (k : Keeper) (m : Move) :
    (k.rebased url).asking? m = none ↔ k.asking? m = none := by
  cases m with
  | act | handOver | pass => exact Iff.rfl
  | go run choice now =>
    show (if k.phase? run = some .attempting then _ else _) = none ↔
      (if k.phase? run = some .attempting then _ else _) = none
    split <;> simp

theorem move_rebased {m : Move} (unasked : k.asking? m = none) :
    (k.rebased url).move m = (k.move m).rebased (lastUrl url [m]) := by
  cases m with
  | handOver | pass => rfl
  | go run choice now =>
    have elsewhere : k.phase? run ≠ some .attempting := by
      intro phase
      simp [asking?, phase] at unasked
    show ((k.rebased url).advance now run choice).getD _ = _
    rw [advance_rebased k now run choice elsewhere]
    show _ = ((k.advance now run choice).getD k).rebased url
    cases k.advance now run choice <;> rfl
  | act action instant =>
    cases action with
    | start =>
      show (k.rebased url).start.2 = k.start.2.rebased url
      cases wanted : k.link.wanted with
      | true => rw [start_of_wanted (k := k.rebased url) wanted, start_of_wanted wanted]
      | false =>
        rw [start_of_unwanted (k := k.rebased url) wanted, start_of_unwanted wanted]
        rfl
    | stop =>
      show (k.rebased url).stop.2 = k.stop.2.rebased url
      rw [stop_eq, stop_eq]
      unfold stopped
      rw [release_rebased]
      rfl
    | shutdown | wait => cases instant
    -- To set the base URL is to set it in either world; no other action looks at it.
    | _ => rfl

/-- **Up to the next asking all goes the same way whatever the base URL is**, and that asking comes
at the same move. -/
theorem after_rebased (k : Keeper) (url : String) (moves : List Move) :
    ((k.rebased url).askings moves = [] ↔ k.askings moves = []) ∧
      (k.askings moves = [] →
        (k.rebased url).after moves = (k.after moves).rebased (lastUrl url moves)) := by
  induction moves generalizing k url with
  | nil => exact ⟨Iff.rfl, fun _ => rfl⟩
  | cons m moves ih =>
    have first : (k.rebased url).asking? m = none ↔ k.asking? m = none := asking?_rebased k m
    simp only [askings, List.append_eq_nil_iff, Option.toList_eq_nil_iff, after_cons, first,
      lastUrl_cons url m moves]
    constructor
    · refine and_congr_right fun unasked => ?_
      rw [move_rebased unasked]
      exact (ih _ _).1
    · rintro ⟨unasked, rest⟩
      rw [move_rebased unasked]
      exact (ih _ _).2 rest

end VoiceTicket.Keeper
