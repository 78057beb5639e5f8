/-
  One step of a run.

  1. **Program** — `Keeper.advance` lets one run go on from what it waits for to what it waits for
     next, and has no value while the run has to wait.

  2. **Specification** — a `Choice` settles what the world leaves open: which of two things a run
     takes up that are both there, and the share of the jitter.  Every choice is possible at every
     step.

  3. **Crux** — a step is all that happens between two waits, so nothing comes in between its parts.
     A report that fails ends the run in the middle of its step; what it has done stays done.
-/
import VoiceTicket.Keeper.Basic

namespace VoiceTicket

/-- What is open in a step. -/
structure Choice where
  /-- Of a stop and an event that are both there the event is taken up. -/
  event : Bool
  /-- The share of the jitter, if a retry is armed. -/
  share : Binary64
deriving DecidableEq, Repr

/-- A stop comes first, and nothing is added to a delay. -/
def Choice.plain : Choice := ⟨false, Binary64.zero false⟩

namespace Keeper

/-- How long a closed socket is waited for: two seconds, in nanoseconds. -/
def closeGrace : Nat := 2 * Duration.perSecond

/-! ## Retries -/

/-- The entry of the log for an armed retry. -/
def retryMessage (delay : Duration) (attempt : Nat) : String :=
  "Reconnecting in " ++ toString delay.millis ++ "ms (attempt " ++ toString attempt ++ ")"

/-- Arms a retry and sleeps until it is due, or ends if there is none to arm. -/
def armRetry (k : Keeper) (run : Nat) (share : Binary64) : Effect :=
  if k.isCurrent run then
    match k.link.closed k.policy share with
    | (.armed delay, link) => do
      let k ← { k with link }.reportLog .info (retryMessage delay link.attempt)
      return k.setPhase run (.sleeping (k.clock + delay.nanos))
    | (.unwanted, link) => .ok ({ k with link }.setPhase run .ended)
    | (.overflow, link) => .error { k with link }
  else .ok (k.setPhase run .ended)

/-! ## Attempts -/

/-- Makes an attempt for a URL and waits for its end. -/
def dial (k : Keeper) (run : Nat) (url : Url) : Keeper :=
  { k with dialled := k.dialled ++ [url], dials := k.dials.tail }.setPhase run
    (.connecting k.dials.head?)

/-- Asks for the base URL and makes an attempt; a base URL without a channel is a failed one. -/
def attempt (k : Keeper) (run : Nat) (share : Binary64) : Effect :=
  if k.urlFails then .error { k with urlFails := false }
  else match Channel.url k.baseUrl with
    | .ok url =>
      if k.isCurrent run then do
        let k ← k.reportLog .info ("Connecting to " ++ url.text)
        return k.dial run url
      else .ok (k.setPhase run .ended)
    | .error fault => do
      let k ← k.ifCurrent run (·.reportLog .error fault.message)
      k.armRetry run share

/-- Waits for a closed socket to acknowledge. -/
def drain (k : Keeper) (run socket : Nat) : Keeper :=
  k.setPhase run (.draining socket (k.clock + closeGrace))

/-- A socket has opened: reads it, or closes it at once if the run is over. -/
def register (k : Keeper) (run socket : Nat) : Effect :=
  let k := k.modifySocket socket fun s => { s with opened := true }
  if k.isCurrent run then do
    let k ← { k with link := k.link.opened }.reportAll
      [.connected true, .log .info "Connected to status channel"]
    return { k with live := some socket }.setPhase run (.reading socket)
  else .ok ((k.closeSocket socket).drain run socket)

/-- An attempt has ended. -/
def dialled? (k : Keeper) (run : Nat) (share : Binary64) : Option Dial → Option Effect
  | none => none
  | some (.refused fault) => some do
    let k ← k.ifCurrent run (·.reportDown .error ("Connection failed: " ++ fault.message))
    k.armRetry run share
  | some (.accepted socket) =>
    match k.sockets[socket]? with
    | some s => if s.gated then none else some (k.register run socket)
    | none => none

/-! ## Events -/

/-- Closes the socket, if it is still open, and waits for that to be acknowledged. -/
def leave (k : Keeper) (run socket : Nat) : Keeper := k.release.drain run socket

/-- Reports what a frame means; the time of an event that comes without one is `now`. -/
def dispatch (k : Keeper) (now text : String) : Effect :=
  let frame := Frame.read now text
  { k with unknownCodes := k.unknownCodes + frame.unknownCodes }.reportAll frame.signals

/-- The text for a connection that has closed. -/
def closedMessage : Option String → String
  | some reason => "Disconnected: " ++ reason
  | none => "Disconnected"

/-- Takes up an event of the socket. -/
def handle (k : Keeper) (now : String) (run socket : Nat) (share : Binary64) :
    SocketEvent → Effect
  | .text text =>
    if k.isCurrent run then k.dispatch now text else .ok (k.leave run socket)
  | .error message =>
    if k.isCurrent run then k.reportDown .error ("Connection error: " ++ message)
    else .ok (k.leave run socket)
  | .closed reason => do
    let k ← k.release.ifCurrent run (·.reportDown .warn (closedMessage reason))
    k.armRetry run share

/-- Reads the next event of a socket. -/
def readNext? (k : Keeper) (socket : Nat) : Option (SocketEvent × Keeper) :=
  match k.sockets[socket]? with
  | none => none
  | some s =>
    match s.next? with
    | none => none
    | some (e, s) => some (e, k.modifySocket socket fun _ => s)

/-- Goes on reading. -/
def read? (k : Keeper) (now : String) (run socket : Nat) (cancelled : Bool) (choice : Choice) :
    Option Effect :=
  let stopped := some (.ok (k.leave run socket))
  match k.readNext? socket with
  | some (e, k') =>
    if cancelled && !choice.event then stopped
    else some (k'.handle now run socket choice.share e)
  | none => if cancelled then stopped else none

/-- Goes on waiting for an acknowledgement, skipping all else that the socket has to say. -/
def drain? (k : Keeper) (run socket until_ : Nat) : Option Effect :=
  match k.readNext? socket with
  | some (.closed _, k') => some (.ok (k'.setPhase run .ended))
  | some (_, k') => some (.ok k')
  | none => if until_ ≤ k.clock then some (.ok (k.setPhase run .ended)) else none

/-- Goes on sleeping; the retry that is due makes an attempt if the run is still the current one. -/
def wake? (k : Keeper) (run until_ : Nat) (cancelled : Bool) (choice : Choice) : Option Effect :=
  let due := decide (until_ ≤ k.clock)
  if cancelled && !(due && choice.event) then some (.ok (k.setPhase run .ended))
  else if due then
    if k.isCurrent run then
      some (.ok ({ k with link := k.link.retryFired }.setPhase run .attempting))
    else some (.ok (k.setPhase run .ended))
  else none

/-! ## A step -/

/-- Whether a run has ended; one that never was has. -/
def hasEnded (k : Keeper) (run : Nat) : Bool :=
  match k.runs[run]? with
  | some r => r.phase == .ended
  | none => true

/-- What a run does next, unless it has to wait. -/
def effect? (k : Keeper) (now : String) (run : Nat) (choice : Choice) (r : Run) :
    Option Effect :=
  match r.phase with
  | .waiting earlier => if k.hasEnded earlier then some (.ok (k.setPhase run .attempting)) else none
  | .attempting => some (k.attempt run choice.share)
  | .connecting dial =>
    match k.dialled? run choice.share dial with
    | some effect =>
      if r.cancelled && !choice.event then some (.ok (k.setPhase run .ended)) else some effect
    | none => if r.cancelled then some (.ok (k.setPhase run .ended)) else none
  | .reading socket => k.read? now run socket r.cancelled choice
  | .draining socket until_ => k.drain? run socket until_
  | .sleeping until_ => k.wake? run until_ r.cancelled choice
  | .ended => none

/-- The world after an effect of a run; one that fails ends it. -/
def conclude (run : Nat) : Effect → Keeper
  | .ok k => k
  | .error k => k.setPhase run .ended

/-- The world after the next step of a run, unless that has to wait. -/
def advance (k : Keeper) (now : String) (run : Nat) (choice : Choice) : Option Keeper :=
  match k.runs[run]? with
  | none => none
  | some r => (k.effect? now run choice r).map (conclude run)

end Keeper

end VoiceTicket
