/-
  Sockets, as the keeper of the connection sees them.

  1. **Data** — a `Socket` holds what its peer has sent and has not been read yet, and whether the
     peer will send no more.  A `Dial` is what becomes of one attempt to open a socket.

  2. **Program** — `Socket.next?` reads the next event, if there is one.

  3. **Specification** — a socket that has been closed from this side reports that at once, in
     front of all that is still unread; a stubborn one does not and has to be waited for.  After
     the last event a peer that has hung up reads as closed, as often as it is asked.

  4. **Crux** — a socket is open from the end of the attempt until its closer has run, whatever its
     peer does (`Socket.isOpen`).
-/
import VoiceTicket.Frame
import VoiceTicket.Status
import VoiceTicket.Store
import VoiceTicket.WebSocket

namespace VoiceTicket

/-- What becomes of an attempt to open a socket. -/
inductive Dial where
  | refused (fault : ConnectFault)
  | accepted (socket : Nat)
deriving DecidableEq, Repr

/-- A socket: what is unread, and how far it has come. -/
structure Socket where
  queue : List SocketEvent
  /-- The peer sends no more. -/
  hungUp : Bool
  /-- A close from this side is not acknowledged. -/
  stubborn : Bool
  /-- The attempt does not end yet. -/
  gated : Bool
  opened : Bool
  /-- The closer has run. -/
  closed : Bool
deriving DecidableEq, Repr

namespace Socket

/-- A socket that is still to be opened. -/
def new (gated stubborn : Bool) : Socket := ⟨[], false, stubborn, gated, false, false⟩

instance : Inhabited Socket := ⟨new false false⟩

/-- Whether the socket counts as open. -/
def isOpen (s : Socket) : Bool := s.opened && !s.closed

/-- The socket once its peer has sent an event; one that has hung up sends no more. -/
def deliver (s : Socket) (e : SocketEvent) : Socket :=
  if s.hungUp then s else { s with queue := s.queue ++ [e] }

theorem isOpen_deliver (s : Socket) (e : SocketEvent) : (s.deliver e).isOpen = s.isOpen := by
  unfold deliver
  split <;> rfl

/-- The next event, and the socket once it is read. -/
def next? (s : Socket) : Option (SocketEvent × Socket) :=
  if s.closed && !s.stubborn then some (.closed none, s)
  else match s.queue with
    | e :: rest => some (e, { s with queue := rest })
    | [] => if s.hungUp then some (.closed none, s) else none

/-- Reading changes nothing but what is unread. -/
theorem isOpen_next {s s' : Socket} {e : SocketEvent} (h : s.next? = some (e, s')) :
    s'.isOpen = s.isOpen := by
  unfold next? at h
  split at h
  · cases h; rfl
  · split at h
    · cases h; rfl
    · split at h
      · cases h; rfl
      · cases h

end Socket

/-! ## What a frame means -/

/-- The signals that a code gives rise to; one that is not known gives none. -/
def Progress.signals (code : String) : List Signal :=
  match ofCode? code with
  | some p => [.status p.status, .label p.label]
  | none => []

/-- The signals that a frame gives rise to. -/
def Frame.signals : Frame → List Signal
  | .clarification session => [.clarification session]
  | .loop event => [.loop event]
  | .progress status node => (Frame.progress status node).codes.flatMap Progress.signals
  | .silent => []
  | .raw text => [.log .info text]

/-- How many codes of a frame are not known. -/
def Frame.unknownCodes (f : Frame) : Nat :=
  (f.codes.filter fun code => (Progress.ofCode? code).isNone).length

end VoiceTicket
