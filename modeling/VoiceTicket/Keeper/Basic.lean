/-
  The keeper: it keeps one status connection alive.

  1. **Data** — a `Keeper` is the bookkeeping of the connection, its runs, and the world they act
     on: sockets, the attempts still to be answered, the clock, the store.  A `Run` is one activity
     from a start to the stop after it; its `Phase` says what it waits for.

  2. **Program** — a run goes through attempts, each of which ends in a socket that is read until it
     closes, or in a refusal; after either it sleeps and tries again.

  3. **Specification** — whatever a run does to the bookkeeping or reports to the store it does
     only while it is the current run (`Keeper.isCurrent`); between two waits nothing else happens.

  4. **Crux** — the closing side of the open socket lies in one place, `live`, from which both a
     stop and the run take it; whoever finds it there closes the socket, so that it is closed once.

  Left out are callers that are active inside a step of a run, on a thread of their own: between two
  waits nothing else happens.  A report that fails ends its run, and the bookkeeping goes on from
  what it was, as a lock does that is not given up for a holder that has failed.  What is written for
  the operator of the program, and not to the log of the store, is left out, too.  The count of
  unknown codes is a natural number; a word of 64 bits agrees with it up to `2 ^ 64` of them.
-/
import VoiceTicket.Channel
import VoiceTicket.Keeper.Socket
import VoiceTicket.Reconnect.Link

namespace VoiceTicket

/-- What a run waits for. -/
inductive Phase where
  /-- The end of an earlier run. -/
  | waiting (run : Nat)
  /-- Nothing: it is about to make an attempt. -/
  | attempting
  /-- The end of an attempt; one without an answer never ends. -/
  | connecting (dial : Option Dial)
  /-- An event of its socket. -/
  | reading (socket : Nat)
  /-- The acknowledgement of a close, up to some time. -/
  | draining (socket until_ : Nat)
  /-- The time of the next attempt. -/
  | sleeping (until_ : Nat)
  | ended
deriving DecidableEq, Repr

/-- One activity, from a start to the stop after it. -/
structure Run where
  cancelled : Bool
  phase : Phase
deriving DecidableEq, Repr

/-- The connection that is kept alive, and the world around it. -/
structure Keeper where
  policy : Policy
  link : Link
  /-- The socket whose closer is at hand. -/
  live : Option Nat
  /-- The run that the next one has to wait for. -/
  previous : Option Nat
  runs : List Run
  sockets : List Socket
  dials : List Dial
  /-- The base URL that the next attempt will find. -/
  baseUrl : String
  /-- The next attempt will find no base URL, but a failure. -/
  urlFails : Bool
  /-- How many more entries of the log arrive before one fails, if one will. -/
  logFails : Option Nat
  /-- The time in nanoseconds. -/
  clock : Nat
  /-- All that was reported to the store, in order. -/
  signals : List Signal
  /-- All URLs that attempts were made for, in order. -/
  dialled : List Url
  unknownCodes : Nat
  store : Store
deriving Repr

namespace Keeper

/-- A keeper that was never started. -/
def new (policy : Policy) (baseUrl : String) : Keeper :=
  { policy, link := .idle, live := none, previous := none, runs := [], sockets := [], dials := []
    baseUrl, urlFails := false, logFails := none, clock := 0, signals := [], dialled := []
    unknownCodes := 0, store := .initial }

/-! ## Small changes -/

/-- Whether a run is the one under way; runs are numbered from one in the bookkeeping. -/
def isCurrent (k : Keeper) (run : Nat) : Bool := k.link.isCurrent (run + 1)

/-- Lets a run wait for something. -/
def setPhase (k : Keeper) (run : Nat) (phase : Phase) : Keeper :=
  { k with runs := k.runs.modify run fun r => { r with phase } }

/-- Changes a socket. -/
def modifySocket (k : Keeper) (socket : Nat) (f : Socket → Socket) : Keeper :=
  { k with sockets := k.sockets.modify socket f }

/-- Runs the closer of a socket. -/
def closeSocket (k : Keeper) (socket : Nat) : Keeper :=
  k.modifySocket socket fun s => { s with closed := true }

/-- Takes the closer that is at hand and runs it. -/
def release (k : Keeper) : Keeper :=
  match k.live with
  | some socket => { k.closeSocket socket with live := none }
  | none => k

/-- How many sockets are open. -/
def openCount (k : Keeper) : Nat := k.sockets.countP Socket.isOpen

/-! ## Reporting -/

/-- What a run makes of the world: it goes on, or has failed in a report and leaves the world as
it is at that moment. -/
abbrev Effect := Except Keeper Keeper

/-- Something has been reported. -/
def tell (k : Keeper) (signal : Signal) : Keeper :=
  { k with signals := k.signals ++ [signal], store := k.store.receive signal }

/-- Reports to the store; the entry of the log that is to fail does not arrive. -/
def report (k : Keeper) (signal : Signal) : Effect :=
  match signal, k.logFails with
  | .log .., some 0 => .error { k with logFails := none }
  | .log .., some (spared + 1) => .ok { k.tell signal with logFails := some spared }
  | _, _ => .ok (k.tell signal)

/-- Reports to the store, one thing after the other. -/
def reportAll (k : Keeper) (signals : List Signal) : Effect := signals.foldlM report k

/-- Reports an entry of the log. -/
def reportLog (k : Keeper) (level : Level) (message : String) : Effect :=
  k.report (.log level message)

/-- Does something if a run is the current one, and else nothing. -/
def ifCurrent (k : Keeper) (run : Nat) (f : Keeper → Effect) : Effect :=
  if k.isCurrent run then f k else .ok k

/-- The connection is down: says so in the bookkeeping, to the store and in the log. -/
def reportDown (k : Keeper) (level : Level) (message : String) : Effect :=
  { k with link := { k.link with connected := false } }.reportAll
    [.connected false, .log level message]

/-! ## The two calls -/

/-- Wants a connection, unless one is wanted already: begins a run, which waits for the one before
it.  Says whether a run was begun. -/
def start (k : Keeper) : Bool × Keeper :=
  match k.link.start? with
  | none => (false, k)
  | some link =>
    let phase := match k.previous with
      | some run => Phase.waiting run
      | none => .attempting
    (true,
      { k with
        link
        runs := k.runs ++ [⟨false, phase⟩]
        previous := some k.runs.length })

/-- Wants a connection, where there is something that can carry a run. -/
def startOn (k : Keeper) (hasRuntime : Bool) : Except ConnectFault Bool × Keeper :=
  if hasRuntime then
    let (begun, k) := k.start
    (.ok begun, k)
  else (.error .noRuntime, k)

/-- Cancels the latest run. -/
def cancelLast (k : Keeper) : Keeper :=
  { k with runs := k.runs.modify (k.runs.length - 1) fun r => { r with cancelled := true } }

/-- Wants no connection any more: cancels the run under way and closes its socket.  Says whether a
connection was wanted. -/
def stop (k : Keeper) : Bool × Keeper :=
  let (changed, link) := k.link.stop
  (changed, { k with link }.cancelLast.release)

/-- Takes the run that is to be waited for; the next run will not wait for it. -/
def takePrevious (k : Keeper) : Option Nat × Keeper :=
  (k.previous, { k with previous := none })

end Keeper

end VoiceTicket
