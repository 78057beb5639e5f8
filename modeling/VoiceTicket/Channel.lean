/-
  Where the status channel is.

  1. **Program** — `Channel.url base` is the URL of the status channel of the server whose base URL
     is given; `Channel.serverUrl text` is the form in which a base URL is kept.

  2. **Specification** — the channel is on the same host and port as the server, under the path of
     the base URL without its last slashes and then `/ws/status`; its scheme is `ws`, or `wss`
     where the base URL is for an encrypted connection.  A base URL must have one of the four
     schemes.

  3. **Crux** — the channel is the URL of the server with some parts exchanged, one after the other;
     each is read again as it is set.  A base URL is kept as it was typed, without the blanks around
     it and the slashes at its end; it is parsed only to see whether it could be used.
-/
import VoiceTicket.Url.Change

namespace VoiceTicket.Channel

/-- Why a base URL has no status channel. -/
inductive Fault where
  | invalidUrl (url : String) (reason : Url.Fault)
  | unsupportedScheme (scheme : String)
deriving DecidableEq, Repr

/-- The text of a fault. -/
def Fault.message : Fault → String
  | .invalidUrl url reason => "Invalid server URL '" ++ url ++ "': " ++ reason.message
  | .unsupportedScheme scheme =>
    "Unsupported URL scheme '" ++ scheme ++ "' (expected http, https, ws or wss)"

/-- The scheme of the channel, by the scheme of the server. -/
def scheme? : String → Option String
  | "http" | "ws" => some "ws"
  | "https" | "wss" => some "wss"
  | _ => none

/-- The path of the channel on a server. -/
def path : String := "/ws/status"

/-- The channel of a server: its URL with the scheme and the path of the channel, and with neither a
query nor a fragment. -/
def ofServer? (u : Url) : Option Url :=
  ((scheme? u.scheme).bind u.setScheme?).map fun c =>
    ((c.setPath (Text.trimEndSlashes c.path.text ++ path)).setQuery none).setFragment none

/-- The URL of the status channel for a base URL. -/
def url (base : String) : Except Fault Url :=
  let base := Text.trim base
  match Url.parse base with
  | .error reason => .error (.invalidUrl base reason)
  | .ok u =>
    match ofServer? u with
    | none => .error (.unsupportedScheme u.scheme)
    | some channel => .ok channel

/-- The form in which a base URL is kept, if it can be used. -/
def serverUrl (text : String) : Except Fault String :=
  match url text with
  | .error fault => .error fault
  | .ok _ => .ok (Text.trimEndSlashes (Text.trim text))

/-- The text of the channel's URL, or why there is none. -/
def describe (base : String) : String :=
  match url base with
  | .ok u => u.text
  | .error fault => fault.message

example : describe " https://u@a:443/b//?q " = "wss://u@a/b/ws/status" := by decide +kernel
example : describe "ftp://a" =
    "Unsupported URL scheme 'ftp' (expected http, https, ws or wss)" := by decide +kernel

end VoiceTicket.Channel
