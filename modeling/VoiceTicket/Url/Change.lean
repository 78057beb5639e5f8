/-
  Changing the parts of a URL.

  1. **Program** — `setScheme?`, `setPath`, `setQuery` and `setFragment` exchange one part of a URL
     for what a text spells in its place.

  2. **Specification** — the URL standard.  The text is read as it would be in a URL, percent
     encoding and dot segments and all, but nothing in it begins another part: a question mark in
     a path is encoded.  Tabs and line breaks are dropped; controls and blanks around the text are
     not.

  3. **Crux** — a well-known scheme can only take the place of another one, since the rest of the
     URL was read for such a scheme; and a port that the new scheme stands for is no longer held.
-/
import VoiceTicket.Url.Parser

namespace VoiceTicket.Url

/-- The characters of a part that count. -/
def Parser.counted (text : String) : List Char := text.toList.filter (!isSkipped ·)

/-! ## The scheme -/

/-- The authority under a scheme, without the port that the scheme stands for anyway. -/
def Authority.under (a : Authority) (scheme : String) : Authority :=
  if a.port = defaultPort? scheme then { a with port := none } else a

/-- Whether an authority is a host and nothing else. -/
def Authority.isBare (a : Authority) : Bool :=
  a.username.isEmpty && a.password.isNone && a.port.isNone

/-- Whether the rest of a URL fits another scheme. -/
def admits (u : Url) (scheme : String) : Bool :=
  match SchemeKind.of u.scheme, SchemeKind.of scheme with
  | .special, .special => u.authority.isSome
  | .special, .file => u.authority.all (·.isBare)
  | .file, .special => u.host?.isSome
  | .file, .file => true
  | .other, .other => true
  | _, _ => false

/-- The URL with another scheme, if that is one and the rest fits it. -/
def setScheme? (u : Url) (text : String) : Option Url :=
  match Parser.scheme? (text.toList ++ [':']) with
  | some (scheme, []) =>
    if u.admits scheme then
      some { u with scheme, authority := u.authority.map (·.under scheme) }
    else none
  | _ => none

/-! ## The path -/

/-- The URL with another path; one that is not divided stays. -/
def setPath (u : Url) (text : String) : Url :=
  match u.path, SchemeKind.of u.scheme with
  | .plain _, _ => u
  | .segments _, .file =>
    { u with path :=
        Parser.filePath (Parser.segments .file (Parser.dropSlash .file (Parser.counted text))) }
  | .segments _, kind => { u with path := Parser.pathAfterAuthority kind (Parser.counted text) }

/-! ## Query and fragment -/

/-- Blanks at the end of a path that is not divided stay only in front of a query or a fragment. -/
def dropBlankEnd (u : Url) : Url :=
  match u.path, u.query, u.fragment with
  | .plain text, none, none => { u with path := .plain (Text.trimEnd (· == ' ') text) }
  | _, _, _ => u

/-- The URL with another query, or with none. -/
def setQuery (u : Url) (text : Option String) : Url :=
  let cls := if (SchemeKind.of u.scheme).isSpecial then Percent.specialQuery else Percent.query
  dropBlankEnd { u with query := text.map (Percent.encode cls <| Parser.counted ·) }

/-- The URL with another fragment, or with none. -/
def setFragment (u : Url) (text : Option String) : Url :=
  dropBlankEnd { u with fragment := text.map (Percent.encode Percent.fragment <| Parser.counted ·) }

example : ((parse "http://u@h:443/a").toOption.bind (·.setScheme? "HTTPS")).map text =
    some "https://u@h/a" := by decide +kernel
example : (parse "http://h/a?q").toOption.map (·.setPath "b/../c?d\t\\" |>.text) =
    some "http://h/c%3Fd/?q" := by decide +kernel

end VoiceTicket.Url
