/-
  The calls to the server.

  1. **Data** — an `Endpoint` is one address of the server; a `Backend.Fault` says why a call to
     one failed.

  2. **Program** — `Backend.runText`, `Backend.clarify`, `Backend.sendAudio` and `Backend.health`
     make one call each and read the answer.

  3. **Specification** — the URL of a call is the base URL without blanks around it and slashes at
     its end, followed by the path of the endpoint.  An answer that reports no success is a fault
     with the body as its text.

  4. **Crux** — a server without the endpoint for recordings answers 404 or 405; the recording is
     then sent once more, to the endpoint that only transcribes, and that answer alone counts.
-/
import VoiceTicket.Http
import VoiceTicket.Outcome

namespace VoiceTicket

/-- An address of the server. -/
inductive Endpoint where
  | audio
  | text
  | clarify
  | transcribe
  | health
deriving DecidableEq, Repr

/-- The path of an endpoint. -/
def Endpoint.path : Endpoint → String
  | .audio => "/api/pipeline/run/audio"
  | .text => "/api/pipeline/run"
  | .clarify => "/api/pipeline/clarify"
  | .transcribe => "/api/transcribe"
  | .health => "/health"

namespace Backend

/-- Why a body is not what was expected. -/
inductive Reason where
  | undecodable
  | outcome (fault : Outcome.Fault)
  | mismatch (m : Json.Mismatch)
deriving DecidableEq, Repr

/-- The text of a reason. -/
def Reason.message : Reason → String
  | .undecodable => "error decoding response body"
  | .outcome fault => fault.message
  | .mismatch m => m.message

/-- Why a call failed. -/
inductive Fault where
  | network (fault : Http.Fault)
  | server (status : Nat) (endpoint : Endpoint) (body : String)
  | invalid (endpoint : Endpoint) (reason : Reason)
  | emptyText
deriving DecidableEq, Repr

/-- The text of a fault. -/
def Fault.message : Fault → String
  | .network fault => "Network error: " ++ fault.message
  | .server status endpoint body =>
    "Server error " ++ toString status ++ " on " ++ endpoint.path ++ ": " ++ body
  | .invalid endpoint reason =>
    "Unexpected response from " ++ endpoint.path ++ ": " ++ reason.message
  | .emptyText => "Text must not be empty"

/-! ## Reading an answer -/

/-- The text of the body of a fault; a mark of the byte order is no part of it. -/
def faultBody (body : Option String) : String :=
  match body with
  | none => "Unknown error"
  | some text =>
    match text.toList with
    | '\ufeff' :: cs => String.ofList cs
    | _ => text

/-- The value in the body of an answer that reports success. -/
def readJson (endpoint : Endpoint) (r : Http.Response) : Except Fault Json :=
  if !r.isSuccess then .error (.server r.status endpoint (faultBody r.body))
  else match r.body.bind Json.parse? with
    | some v => .ok v
    | none => .error (.invalid endpoint .undecodable)

/-- The outcome in a value. -/
def outcomeOf (endpoint : Endpoint) (v : Json) : Except Fault Outcome :=
  (Outcome.ofJson v).mapError fun fault => .invalid endpoint (.outcome fault)

/-- The outcome in an answer. -/
def readOutcome (endpoint : Endpoint) (r : Http.Response) : Except Fault Outcome :=
  (readJson endpoint r).bind (outcomeOf endpoint)

/-- The report in an answer. -/
def readHealth (r : Http.Response) : Except Fault Health :=
  (readJson .health r).bind fun v =>
    (Health.decode v).mapError fun m => .invalid .health (.mismatch m)

/-! ## Calls -/

/-- The base URL in the form that paths are appended to. -/
def baseUrl (url : String) : String := Text.trimEndSlashes (Text.trim url)

/-- The URL of an endpoint. -/
def url (base : String) (endpoint : Endpoint) : String := baseUrl base ++ endpoint.path

/-- Sends one request to an endpoint. -/
def request (base : String) (method : Http.Method) (endpoint : Endpoint) (content : Http.Content)
    (w : Http.Wire) : Except Fault Http.Response × Http.Wire :=
  let (answer, w) := w.send method (url base endpoint) content
  (answer.mapError .network, w)

/-- Calls an endpoint that answers with an outcome. -/
def call (base : String) (endpoint : Endpoint) (content : Http.Content) (w : Http.Wire) :
    Except Fault Outcome × Http.Wire :=
  let (answer, w) := request base .post endpoint content w
  (answer.bind (readOutcome endpoint), w)

/-- The text without the blanks around it, unless nothing is left. -/
def requireText (text : String) : Except Fault String :=
  let text := Text.trim text
  if text.isEmpty then .error .emptyText else .ok text

/-- Runs the pipeline on a text. -/
def runText (base text : String) (w : Http.Wire) : Except Fault Outcome × Http.Wire :=
  match requireText text with
  | .error fault => (.error fault, w)
  | .ok text => call base .text (.json (.obj [("text", .str text)])) w

/-- Answers a round of clarification. -/
def clarify (base session answer : String) (w : Http.Wire) : Except Fault Outcome × Http.Wire :=
  match requireText answer with
  | .error fault => (.error fault, w)
  | .ok text =>
    call base .clarify (.json (.obj [("session_id", .str session), ("text", .str text)])) w

/-- Whether an answer says that the server does not have the endpoint. -/
def lacksEndpoint (r : Http.Response) : Bool := r.status == 404 || r.status == 405

/-- Reads the answer to a recording, or sends the recording to be transcribed only. -/
def readOrTranscribe (base : String) (wav : List UInt8) :
    Except Fault Http.Response × Http.Wire → Except Fault Outcome × Http.Wire
  | (.error fault, w) => (.error fault, w)
  | (.ok r, w) =>
    if lacksEndpoint r then call base .transcribe (.recording wav) w
    else (readOutcome .audio r, w)

/-- Sends a recording. -/
def sendAudio (base : String) (wav : List UInt8) (w : Http.Wire) :
    Except Fault Outcome × Http.Wire :=
  readOrTranscribe base wav (request base .post .audio (.recording wav) w)

/-- Asks the server how it is. -/
def health (base : String) (w : Http.Wire) : Except Fault Health × Http.Wire :=
  let (answer, w) := request base .get .health .nothing w
  (answer.bind readHealth, w)

end Backend

end VoiceTicket
