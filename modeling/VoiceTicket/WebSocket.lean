/-
  The WebSocket behind the status channel.

  1. **Data** — a `WebSocket.Message` is what the peer can send, a `SocketEvent` what the reader is
     told.  A `WebSocket.Peer` is what there is at the other end of an attempt.

  2. **Program** — `WebSocket.connect` makes an attempt; `WebSocket.next` reads on to the next
     event.

  3. **Specification** — a binary frame is read as text, leniently.  Pings and pongs are passed
     over.  A close gives its reason, unless that is empty; the reason of a close with a code that
     must not be sent is not passed on.  A peer that goes away without a close is an error.

  4. **Crux** — after a close, an error or the end a socket is finished: from then on it reads as
     closed, as often as it is asked (`next_of_finished`).

  What a keeper reads is a `Socket`, whose queue has the events of a WebSocket in it
  (`WebSocket.next?_heard`).  To make an attempt and to close a socket are the outer layer: a keeper
  is told what becomes of an attempt (`Dial`), and a `Socket` whether its peer acknowledges a close.
-/
import VoiceTicket.Channel
import VoiceTicket.Text.Utf8

namespace VoiceTicket

/-- One observation from a socket. -/
inductive SocketEvent where
  | text (text : String)
  | error (message : String)
  | closed (reason : Option String)
deriving DecidableEq, Repr

namespace WebSocket

/-- The content of a close. -/
structure CloseFrame where
  code : Nat
  reason : String
deriving DecidableEq, Repr

/-- What the peer can send. -/
inductive Message where
  | text (text : String)
  | binary (bytes : List UInt8)
  | ping
  | pong
  | close (frame : Option CloseFrame)
deriving DecidableEq, Repr

/-- Codes that a close may carry: the ones that are assigned for that, and those for libraries and
for private use. -/
def isSendable (code : Nat) : Bool :=
  (1000 ≤ code && code ≤ 1003) || (1007 ≤ code && code ≤ 1013) || (3000 ≤ code && code < 5000)

/-- The reason that a close gives. -/
def CloseFrame.reason? (frame : CloseFrame) : Option String :=
  let reason := if isSendable frame.code then frame.reason else "Protocol violation"
  if reason.isEmpty then none else some reason

/-- What there is at the other end of an attempt. -/
inductive Peer where
  /-- There is no way to the host. -/
  | unreachable
  /-- Nothing listens on the host. -/
  | absent
  /-- The server answers the attempt with a status. -/
  | rejecting (status : Nat)
  /-- The server opens a socket and sends some messages; then it may drop the connection. -/
  | sending (messages : List Message) (drops : Bool)
deriving DecidableEq, Repr

/-- Why an attempt opens no socket. -/
inductive Fault where
  | unreachable
  | refused
  | rejected (status : Nat)
deriving DecidableEq, Repr

/-- The phrases for the statuses of answers. -/
def phrases : List (Nat × String) := [
  (100, "Continue"), (101, "Switching Protocols"), (102, "Processing"), (200, "OK"),
  (201, "Created"), (202, "Accepted"), (203, "Non Authoritative Information"),
  (204, "No Content"), (205, "Reset Content"), (206, "Partial Content"), (207, "Multi-Status"),
  (208, "Already Reported"), (226, "IM Used"), (300, "Multiple Choices"),
  (301, "Moved Permanently"), (302, "Found"), (303, "See Other"), (304, "Not Modified"),
  (305, "Use Proxy"), (307, "Temporary Redirect"), (308, "Permanent Redirect"),
  (400, "Bad Request"), (401, "Unauthorized"), (402, "Payment Required"), (403, "Forbidden"),
  (404, "Not Found"), (405, "Method Not Allowed"), (406, "Not Acceptable"),
  (407, "Proxy Authentication Required"), (408, "Request Timeout"), (409, "Conflict"),
  (410, "Gone"), (411, "Length Required"), (412, "Precondition Failed"),
  (413, "Payload Too Large"), (414, "URI Too Long"), (415, "Unsupported Media Type"),
  (416, "Range Not Satisfiable"), (417, "Expectation Failed"), (418, "I'm a teapot"),
  (421, "Misdirected Request"), (422, "Unprocessable Entity"), (423, "Locked"),
  (424, "Failed Dependency"), (425, "Too Early"), (426, "Upgrade Required"),
  (428, "Precondition Required"), (429, "Too Many Requests"),
  (431, "Request Header Fields Too Large"), (451, "Unavailable For Legal Reasons"),
  (500, "Internal Server Error"), (501, "Not Implemented"), (502, "Bad Gateway"),
  (503, "Service Unavailable"), (504, "Gateway Timeout"), (505, "HTTP Version Not Supported"),
  (506, "Variant Also Negotiates"), (507, "Insufficient Storage"), (508, "Loop Detected"),
  (510, "Not Extended"), (511, "Network Authentication Required")]

/-- The phrase for a status. -/
def phrase (status : Nat) : String := (phrases.lookup status).getD "<unknown status code>"

/-- The text of a fault. -/
def Fault.message : Fault → String
  | .unreachable => "IO error: Network is unreachable (os error 101)"
  | .refused => "IO error: Connection refused (os error 111)"
  | .rejected status => "HTTP error: " ++ toString status ++ " " ++ phrase status

/-- The text for a peer that goes away without a close. -/
def resetMessage : String :=
  "WebSocket protocol error: Connection reset without closing handshake"

end WebSocket

/-- An open socket: what is unread, how it ends, and whether it is finished. -/
structure WebSocket where
  unread : List WebSocket.Message
  drops : Bool
  finished : Bool
deriving DecidableEq, Repr

namespace WebSocket

/-- Makes an attempt. -/
def connect : Peer → Except Fault WebSocket
  | .unreachable => .error .unreachable
  | .absent => .error .refused
  | .rejecting status => .error (.rejected status)
  | .sending messages drops => .ok ⟨messages, drops, false⟩

/-- Closes the socket from this side: the peer acknowledges that with a close of its own, after
what it has already sent. -/
def close (s : WebSocket) : WebSocket :=
  { s with unread := s.unread ++ [.close none], drops := false }

/-- Reads on to the next event in some messages. -/
def read (drops : Bool) : List Message → SocketEvent × WebSocket
  | [] => (if drops then .error resetMessage else .closed none, ⟨[], drops, true⟩)
  | .text text :: rest => (.text text, ⟨rest, drops, false⟩)
  | .binary bytes :: rest => (.text (Text.Utf8.decodeLossy bytes), ⟨rest, drops, false⟩)
  | .ping :: rest | .pong :: rest => read drops rest
  | .close frame :: rest => (.closed (frame.bind CloseFrame.reason?), ⟨rest, drops, true⟩)

/-- Reads the next event. -/
def next (s : WebSocket) : SocketEvent × WebSocket :=
  if s.finished then (.closed none, s) else read s.drops s.unread

/-- The events up to and including the first close, and the socket after them; no more than there
are messages, and the two that can follow the last. -/
def eventsFor : Nat → WebSocket → List SocketEvent × WebSocket
  | 0, s => ([], s)
  | fuel + 1, s =>
    match s.next with
    | (.closed reason, s) => ([.closed reason], s)
    | (e, s) =>
      let (es, s) := eventsFor fuel s
      (e :: es, s)

/-- The events up to and including the first close, and the socket after them. -/
def events (s : WebSocket) : List SocketEvent × WebSocket := eventsFor (s.unread.length + 2) s

/-- A finished socket reads as closed. -/
theorem next_of_finished {s : WebSocket} (h : s.finished = true) : s.next = (.closed none, s) := by
  simp [next, h]

end WebSocket

/-! ## All that can go wrong -/

/-- Why an attempt at the status channel has failed. -/
inductive ConnectFault where
  | url (fault : Channel.Fault)
  | webSocket (fault : WebSocket.Fault)
  | refused (reason : String)
  /-- There is nothing that could carry a run. -/
  | noRuntime
deriving DecidableEq, Repr

/-- The text of a fault. -/
def ConnectFault.message : ConnectFault → String
  | .url fault => fault.message
  | .webSocket fault => "WebSocket error: " ++ fault.message
  | .refused reason => reason
  | .noRuntime => "No async runtime available to drive the status channel"

end VoiceTicket
