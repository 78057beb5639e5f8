/-
  Requests and replies.

  1. **Data** — a `Request` is what is sent, a `Reply` what becomes of it.  A `Wire` is the
     connection to the server: the schemes for which it can be reached at all, the replies that are
     still to come, and the requests that have arrived.

  2. **Program** — `Wire.send` sends one request and takes one reply.

  3. **Specification** — only requests for the schemes of the wire reach the server.  User name and
     password go into a header of their own, and a fragment is not sent.  A request that cannot
     even be made costs no reply.

  4. **Crux** — one request is sent per call, in order, and the n-th that arrives gets the n-th
     reply: what has arrived and what is still to come are both in the wire after the call.

  Left out are redirects, which a client may follow before it hands an answer on: here an answer of
  that kind is handed on with its status.  So are headers, the way in which a recording is wrapped,
  and how long an answer may take.
-/
import VoiceTicket.Json.Printer
import VoiceTicket.Url.Parser

namespace VoiceTicket.Http

/-- How a request is meant. -/
inductive Method where
  | get
  | post
deriving DecidableEq, Repr

/-- The name of a method. -/
def Method.name : Method → String
  | .get => "GET"
  | .post => "POST"

/-- What a request carries. -/
inductive Content where
  | nothing
  | json (value : Json)
  | recording (wav : List UInt8)
deriving DecidableEq, Repr

/-- A request. -/
structure Request where
  method : Method
  url : Url
  content : Content
deriving DecidableEq, Repr

/-- What becomes of a request. -/
inductive Reply where
  /-- An answer; one that is cut short ends before the length that it announced. -/
  | answer (status : Nat) (body : String) (cutShort : Bool)
  /-- The connection ends without an answer. -/
  | dropped
  /-- No answer comes for as long as the client waits. -/
  | silent
deriving DecidableEq, Repr

/-- Why there is no answer. -/
inductive Fault where
  | noUrl
  | unusableUrl (url : Url)
  | unanswered (url : Url)
  | timedOut (url : Url)
deriving DecidableEq, Repr

/-- The text of a fault. -/
def Fault.message : Fault → String
  | .noUrl => "builder error"
  | .unusableUrl url => "builder error for url (" ++ url.text ++ ")"
  | .unanswered url => "error sending request for url (" ++ url.text ++ ")"
  | .timedOut url => "error sending request for url (" ++ url.text ++ ")"

/-- An answer: its status, and its body unless that is cut short. -/
structure Response where
  status : Nat
  body : Option String
deriving DecidableEq, Repr

/-- Whether a status reports success. -/
def Response.isSuccess (r : Response) : Bool := 200 ≤ r.status && r.status < 300

/-- Statuses whose answers have no body. -/
def hasBody (status : Nat) : Bool := !(status < 200 || status == 204 || status == 304)

/-- Statuses that only announce an answer; the switch to another protocol is an answer. -/
def isInterim (status : Nat) : Bool := status < 200 && status != 101

/-! ## The URL of a request -/

/-- Whether a text is percent encoded UTF-8. -/
def isText (s : String) : Bool := (Text.Utf8.decode? (Url.Percent.decode s.toList)).isSome

/-- The URL without user name and password, which go into a header. -/
def withoutUser (u : Url) : Url :=
  match u.authority with
  | some a =>
    if isText a.username && (!a.username.isEmpty || a.password.any isText) then
      { u with authority := some { a with username := "", password := none } }
    else u
  | none => u

/-- Characters of a host that a request line cannot hold. -/
def isUnsendable (c : Char) : Bool := c ∈ ['"', '\x60', '\x7b', '\x7d']

/-- Whether a host can stand in a request line. -/
def isSendable (host : Url.Host) : Bool := !host.text.toList.any isUnsendable

/-- Whether a request can be made for a URL. -/
def isUsable (u : Url) : Bool :=
  (u.scheme == "http" || u.scheme == "https") && u.host?.any isSendable

/-- The URL that a request is made for. -/
def target (text : String) : Except Fault Url :=
  match Url.parse text with
  | .error _ => .error .noUrl
  | .ok u =>
    let u := withoutUser u
    if isUsable u then .ok u else .error (.unusableUrl u)

/-! ## The wire -/

/-- The connection to the server. -/
structure Wire where
  schemes : List String
  replies : List Reply
  arrived : List Request
deriving DecidableEq, Repr

namespace Wire

/-- A wire, not encrypted, with a server at its end that gives some replies. -/
def scripted (replies : List Reply) : Wire := ⟨["http"], replies, []⟩

/-- A wire with nothing at its end. -/
def unreachable : Wire := ⟨[], [], []⟩

/-- What a reply is for the client. -/
def receive (url : Url) : Reply → Except Fault Response
  | .answer status body cutShort =>
    if isInterim status then .error (.unanswered url)
    else if !hasBody status then .ok ⟨status, some ""⟩
    else .ok ⟨status, if cutShort then none else some body⟩
  | .dropped => .error (.unanswered url)
  | .silent => .error (.timedOut url)

/-- Sends one request and takes one reply. -/
def send (w : Wire) (method : Method) (url : String) (content : Content) :
    Except Fault Response × Wire :=
  match target url with
  | .error fault => (.error fault, w)
  | .ok u =>
    if u.scheme ∈ w.schemes then
      (receive u (w.replies.headD .dropped),
        { w with
          replies := w.replies.tail
          arrived := w.arrived ++ [⟨method, u.withoutFragment, content⟩] })
    else (.error (.unanswered u), w)

end Wire

end VoiceTicket.Http
