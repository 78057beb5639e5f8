/-
  URLs.

  1. **Data** — a `Url` is a scheme, an authority where there is one, a path, and perhaps a query
     and a fragment.  A path is a list of segments, or, for schemes that do not divide it, a text.

  2. **Program** — `Url.text` writes a URL.

  3. **Specification** — the parts are held in their written form, percent encoded, so that
     writing is joining them.  A port is held only where it is not the one that the scheme stands
     for anyway.

  4. **Crux** — a path without an authority must not look like one, so that a path that begins
     with two slashes is written with a dot segment in front of it.
-/
import VoiceTicket.Url.Domain

namespace VoiceTicket

namespace Url

/-- A host: a name, perhaps an empty one, or an address. -/
inductive Host where
  | name (text : String)
  | ipv4 (address : Nat)
  | ipv6 (groups : List Nat)
deriving DecidableEq, Repr

/-- The text of a host. -/
def Host.text : Host → String
  | .name text => text
  | .ipv4 address => Ipv4.text address
  | .ipv6 groups => "[" ++ Ipv6.text groups ++ "]"

/-- What stands behind the two slashes. -/
structure Authority where
  username : String
  password : Option String
  host : Host
  port : Option Nat
deriving DecidableEq, Repr

/-- The user name and the password with the sign behind them. -/
def Authority.userText (a : Authority) : String :=
  match a.password with
  | some p => a.username ++ ":" ++ p ++ "@"
  | none => if a.username.isEmpty then "" else a.username ++ "@"

/-- The port with the colon in front of it. -/
def Authority.portText (a : Authority) : String :=
  match a.port with
  | some p => ":" ++ toString p
  | none => ""

/-- The text of an authority. -/
def Authority.text (a : Authority) : String := a.userText ++ a.host.text ++ a.portText

/-- A path: segments, each behind a slash, or a text that is not divided. -/
inductive Path where
  | segments (parts : List String)
  | plain (text : String)
deriving DecidableEq, Repr

/-- The text of a path. -/
def Path.text : Path → String
  | .segments parts => String.join (parts.map ("/" ++ ·))
  | .plain text => text

/-- The kinds of schemes: the well-known ones, the one for files, and all others. -/
inductive SchemeKind where
  | special
  | file
  | other
deriving DecidableEq, Repr

/-- The port that a scheme stands for. -/
def defaultPort? : String → Option Nat
  | "http" | "ws" => some 80
  | "https" | "wss" => some 443
  | "ftp" => some 21
  | _ => none

/-- The kind of a scheme. -/
def SchemeKind.of (scheme : String) : SchemeKind :=
  if scheme = "file" then .file
  else if (defaultPort? scheme).isSome then .special else .other

/-- Whether a backslash is a slash in URLs of this kind. -/
def SchemeKind.isSpecial : SchemeKind → Bool
  | .other => false
  | _ => true

end Url

/-- A URL, its parts in their written form. -/
structure Url where
  scheme : String
  authority : Option Url.Authority
  path : Url.Path
  query : Option String
  fragment : Option String
deriving DecidableEq, Repr

namespace Url

/-- Whether a path could be taken for an authority. -/
def Path.looksLikeAuthority : Path → Bool
  | .segments ("" :: _ :: _) => true
  | _ => false

/-- The text of the URL up to its path. -/
def headText (u : Url) : String :=
  u.scheme ++ ":" ++
    match u.authority with
    | some a => "//" ++ a.text
    | none => if u.path.looksLikeAuthority then "/." else ""

/-- The query with the mark in front of it. -/
def queryText (u : Url) : String :=
  match u.query with
  | some q => "?" ++ q
  | none => ""

/-- The fragment with the mark in front of it. -/
def fragmentText (u : Url) : String :=
  match u.fragment with
  | some f => "#" ++ f
  | none => ""

/-- The text of a URL. -/
def text (u : Url) : String :=
  u.headText ++ u.path.text ++ u.queryText ++ u.fragmentText

/-- The URL without its fragment. -/
def withoutFragment (u : Url) : Url := { u with fragment := none }

/-- The host, unless it is empty or missing. -/
def host? (u : Url) : Option Host :=
  match u.authority with
  | some a => if a.host = .name "" then none else some a.host
  | none => none

example : (Url.mk "http" (some ⟨"u", some "p", .ipv4 0x7F000001, some 81⟩)
    (.segments ["a", ""]) (some "q") none).text = "http://u:p@127.0.0.1:81/a/?q" := by
  decide +kernel

end Url

end VoiceTicket
