/-
  What can happen to a keeper.

  1. **Data** — an `Action` is one thing that happens: the world prepares an answer or sends
     something, a caller starts or stops, time passes, the user's side does something to the store.

  2. **Program** — `Keeper.perform` does one action without letting any run go on;
     `Keeper.act` then lets all go on until they wait; `Keeper.actTogether` does several
     actions before any run goes on.

  3. **Specification** — sockets are numbered in the order in which they are prepared.  What is
     sent to a socket waits there until it is read, also before the socket opens; nothing arrives
     from a peer that has hung up.

  4. **Crux** — only a wait and a shutdown let time pass; all else happens at one moment.
-/
import VoiceTicket.Keeper.Schedule

namespace VoiceTicket

/-- One thing that happens to a keeper. -/
inductive Action where
  | refuse (faults : List ConnectFault)
  | accept (gated stubborn : Bool)
  | send (socket : Nat) (event : SocketEvent)
  | hangUp (socket : Nat)
  | openGate (socket : Nat)
  | setBaseUrl (url : String)
  | failUrl
  /-- Lets an entry of the log fail, after some that still arrive. -/
  | failLogAfter (spared : Nat)
  | start
  | stop
  | shutdown
  | wait (nanos : Nat)
  | store (operation : Store.Operation)
deriving DecidableEq, Repr

/-- Lets the next entry of the log fail. -/
abbrev Action.failLog : Action := .failLogAfter 0

/-- What an action answers. -/
inductive Action.Answer where
  | nothing
  | changed (changed : Bool)
  | store (answer : Store.Answer)
deriving DecidableEq, Repr

namespace Keeper

/-- Does one action; but for a wait and a shutdown no run goes on. -/
def perform (k : Keeper) (now : String) : Action → Action.Answer × Keeper
  | .refuse faults => (.nothing, { k with dials := k.dials ++ faults.map .refused })
  | .accept gated stubborn =>
    (.nothing,
      { k with
        dials := k.dials ++ [.accepted k.sockets.length]
        sockets := k.sockets ++ [.new gated stubborn] })
  | .send socket event => (.nothing, k.modifySocket socket (·.deliver event))
  | .hangUp socket => (.nothing, k.modifySocket socket fun s => { s with hungUp := true })
  | .openGate socket => (.nothing, k.modifySocket socket fun s => { s with gated := false })
  | .setBaseUrl url => (.nothing, { k with baseUrl := url })
  | .failUrl => (.nothing, { k with urlFails := true })
  | .failLogAfter spared => (.nothing, { k with logFails := some spared })
  | .start => let (begun, k) := k.start; (.changed begun, k)
  | .stop => let (changed, k) := k.stop; (.changed changed, k)
  | .shutdown => let (changed, k) := k.shutdown now; (.changed changed, k)
  | .wait nanos => (.nothing, k.wait now nanos)
  | .store operation =>
    let (answer, store) := k.store.perform operation
    (.store answer, { k with store })

/-- Does one action and lets all runs go on until they wait. -/
def act (k : Keeper) (now : String) (action : Action) : Action.Answer × Keeper :=
  let (answer, k) := k.perform now action
  (answer, k.settle now)

/-- Does some actions, one after the other, with no run going on in between. -/
def performAll (k : Keeper) (now : String) : List Action → List Action.Answer × Keeper
  | [] => ([], k)
  | action :: rest =>
    let (answer, k) := k.perform now action
    let (answers, k) := performAll k now rest
    (answer :: answers, k)

/-- Does some actions at one moment, and then lets all runs go on until they wait. -/
def actTogether (k : Keeper) (now : String) (actions : List Action) :
    List Action.Answer × Keeper :=
  let (answers, k) := k.performAll now actions
  (answers, k.settle now)

end Keeper

end VoiceTicket
