/-
  Reading a URL.

  1. **Program** — `Url.parse` takes a text apart from left to right: scheme, user, host, port,
     path, query, fragment.

  2. **Specification** — the URL standard, for a text with no other URL to be relative to.  Around
     the text controls and blanks are dropped, tabs and line breaks everywhere.  In the
     well-known schemes a backslash is a slash and the slashes in front of the host may be
     missing or too many; the host must not be empty and is brought into its one canonical form.

  3. **Crux** — dot segments are resolved in one pass over the segments (`resolve`), with the path
     so far as a stack; a path never climbs above its root.
-/
import VoiceTicket.Text.Blank
import VoiceTicket.Url.Basic

namespace VoiceTicket.Url

/-- Why a text is no URL. -/
inductive Fault where
  | relative
  | emptyHost
  | badDomain
  | badPort
  | badIpv4
  | badIpv6
  | badHostCharacter
deriving DecidableEq, Repr

/-- The text of a fault. -/
def Fault.message : Fault → String
  | .relative => "relative URL without a base"
  | .emptyHost => "empty host"
  | .badDomain => "invalid international domain name"
  | .badPort => "invalid port number"
  | .badIpv4 => "invalid IPv4 address"
  | .badIpv6 => "invalid IPv6 address"
  | .badHostCharacter => "invalid domain character"

namespace Parser

/-! ## The text as a whole -/

/-- What may stand around a URL without being part of it. -/
def isPadding (c : Char) : Bool := c ≤ ' '

/-- What is skipped wherever it stands. -/
def isSkipped (c : Char) : Bool := c == '\t' || c == '\n' || c == '\r'

/-- The characters of a text that count. -/
def clean (s : String) : List Char :=
  (Text.dropEndWhile isPadding (s.toList.dropWhile isPadding)).filter (!isSkipped ·)

/-- The scheme at the front of a text, in lower case, and what stands behind its colon. -/
def scheme? (cs : List Char) : Option (String × List Char) :=
  let isPart (c : Char) : Bool := c.isAlphanum || c == '+' || c == '-' || c == '.'
  match cs.takeWhile isPart, cs.dropWhile isPart with
  | c :: name, ':' :: rest =>
    if c.isAlpha then some (String.ofList ((c :: name).map Char.toLower), rest) else none
  | _, _ => none

/-- Whether a character is a slash in URLs of some kind. -/
def isSlash (kind : SchemeKind) (c : Char) : Bool :=
  c == '/' || (kind.isSpecial && c == '\\')

/-- Whether a character ends the authority. -/
def endsAuthority (kind : SchemeKind) (c : Char) : Bool :=
  isSlash kind c || c == '?' || c == '#'

/-! ## The authority -/

/-- What stands in front of the last sign of its kind, and behind it. -/
def splitLast (sep : Char) (cs : List Char) : Option (List Char × List Char) :=
  if cs.contains sep then
    let back := cs.reverse
    some ((back.dropWhile (· != sep)).tail.reverse, (back.takeWhile (· != sep)).reverse)
  else none

/-- User name and password out of what stands in front of the sign behind them; an empty password
is none. -/
def userinfo (cs : List Char) : String × Option String :=
  let name := cs.takeWhile (· != ':')
  let password := (cs.dropWhile (· != ':')).tail
  (Percent.encode Percent.userinfo name,
    if password.isEmpty then none else some (Percent.encode Percent.userinfo password))

/-- A host in square brackets. -/
def bracketed (cs : List Char) : Except Fault Host :=
  match cs, cs.getLast? with
  | '[' :: inner, some ']' =>
    match Ipv6.parse? inner.dropLast with
    | some groups => .ok (.ipv6 groups)
    | none => .error .badIpv6
  | _, _ => .error .badIpv6

/-- The host of one of the well-known schemes. -/
def specialHost (cs : List Char) : Except Fault Host :=
  match cs with
  | '[' :: _ => bracketed cs
  | _ =>
    match Domain.toAscii? (Percent.decode cs) with
    | none => .error .badDomain
    | some [] => .error .emptyHost
    | some name =>
      if Ipv4.isMeant name then
        match Ipv4.parse? name with
        | some address => .ok (.ipv4 address)
        | none => .error .badIpv4
      else .ok (.name (String.ofList name))

/-- The characters that a host of another scheme may not hold. -/
def isForbidden (c : Char) : Bool :=
  c ∈ ['\x00', '\t', '\n', '\r', ' ', '#', '/', ':', '<', '>', '?', '@', '[', '\\', ']', '^', '|']

/-- The host of another scheme, which is not looked into. -/
def plainHost (cs : List Char) : Except Fault Host :=
  match cs with
  | '[' :: _ => bracketed cs
  | _ =>
    if cs.any isForbidden then .error .badHostCharacter
    else .ok (.name (Percent.encode Percent.controls cs))

/-- The characters up to the colon in front of the port; a colon in brackets is none. -/
def hostSpan : (inside : Bool) → List Char → List Char × List Char
  | _, [] => ([], [])
  | inside, c :: cs =>
    if c = ':' ∧ !inside then ([], c :: cs)
    else
      let inside := if c = '[' then true else if c = ']' then false else inside
      let (host, rest) := hostSpan inside cs
      (c :: host, rest)

/-- The port behind a colon, unless it is the one that the scheme stands for. -/
def port (scheme : String) (cs : List Char) : Except Fault (Option Nat) :=
  match readDigits? 10 cs with
  | none => .error .badPort
  | some n =>
    if 65535 < n then .error .badPort
    else if cs.isEmpty || defaultPort? scheme = some n then .ok none
    else .ok (some n)

/-- Host and port out of what stands behind the user. -/
def hostPort (scheme : String) (kind : SchemeKind) (cs : List Char) :
    Except Fault (Host × Option Nat) := do
  let (name, rest) := hostSpan false cs
  if name.isEmpty && (kind.isSpecial || !rest.isEmpty) then throw .emptyHost
  let host ← if kind.isSpecial then specialHost name else plainHost name
  match rest with
  | ':' :: digits => return (host, ← port scheme digits)
  | _ => return (host, none)

/-- The authority out of all that stands in front of the path; `more` says whether a path, a query
or a fragment follows. -/
def authority (scheme : String) (kind : SchemeKind) (more : Bool) (cs : List Char) :
    Except Fault Authority := do
  match splitLast '@' cs with
  | none =>
    let (host, port) ← hostPort scheme kind cs
    return ⟨"", none, host, port⟩
  | some (user, rest) =>
    if user.isEmpty && rest.isEmpty && more then throw .emptyHost
    let (username, password) := userinfo user
    let (host, port) ← hostPort scheme kind rest
    let named := !username.isEmpty || password.isSome
    if host = .name "" && named then throw .emptyHost
    return ⟨username, password, host, port⟩

/-! ## The path -/

/-- A segment that stands for the place it is in. -/
def isSingleDot (s : String) : Bool := s ∈ [".", "%2e", "%2E"]

/-- A segment that stands for the place above. -/
def isDoubleDot (s : String) : Bool :=
  s ∈ ["..", ".%2e", ".%2E", "%2e.", "%2E.", "%2e%2e", "%2e%2E", "%2E%2e", "%2E%2E"]

/-- A letter and a colon, or a bar in the place of the colon. -/
def isDrive (cs : List Char) : Bool :=
  match cs with
  | [c, d] => c.isAlpha && (d == ':' || d == '|')
  | _ => false

/-- Takes the last segment off a path that is held in reverse; one that names a drive stays. -/
def climb : List String → List String
  | [] => []
  | s :: up => if isDrive s.toList then s :: up else up

/-- Resolves dot segments; the path so far is held in reverse. -/
def resolve (up : List String) : List String → List String
  | [] => up.reverse
  | [s] =>
    if isDoubleDot s then ("" :: climb up).reverse
    else if isSingleDot s then ("" :: up).reverse
    else (s :: up).reverse
  | s :: rest =>
    if isDoubleDot s then resolve (climb up) rest
    else if isSingleDot s then resolve up rest
    else resolve (s :: up) rest

/-- The text cut at every slash. -/
def cut (kind : SchemeKind) : List Char → List (List Char)
  | [] => [[]]
  | c :: cs =>
    match cut kind cs with
    | [] => [[c]]
    | part :: parts => if isSlash kind c then [] :: part :: parts else (c :: part) :: parts

/-- The segments of a path, behind its first slash. -/
def segments (kind : SchemeKind) (cs : List Char) : List String :=
  resolve [] ((cut kind cs).map (Percent.encode Percent.path))

/-- The text without the slash in front of it, if there is one. -/
def dropSlash (kind : SchemeKind) : List Char → List Char
  | [] => []
  | c :: cs => if isSlash kind c then cs else c :: cs

/-- The path behind an authority. -/
def pathAfterAuthority (kind : SchemeKind) (cs : List Char) : Path :=
  if !kind.isSpecial && cs.isEmpty then .segments []
  else .segments (segments kind (dropSlash kind cs))

/-- Puts the colon behind a drive letter. -/
def normalizeDrive : List String → List String
  | s :: rest => (if isDrive s.toList then String.ofList (s.toList.take 1 ++ [':']) else s) :: rest
  | [] => []

/-- Whether a path begins with a drive. -/
def onDrive (parts : List String) : Bool := parts.head?.any (isDrive ·.toList)

/-- The path of a file: no empty segments at its front. -/
def filePath (parts : List String) : Path :=
  match (normalizeDrive parts).dropWhile (·.isEmpty) with
  | [] => .segments [""]
  | parts => .segments parts

/-! ## The whole -/

/-- Path, query and fragment as they stand in a text. -/
structure Tail where
  path : List Char
  query : Option (List Char)
  fragment : Option (List Char)

/-- The text up to a character, and what stands behind that, if it is there. -/
def splitFirst (sep : Char) (cs : List Char) : List Char × Option (List Char) :=
  match cs.dropWhile (· != sep) with
  | [] => (cs, none)
  | _ :: rest => (cs.takeWhile (· != sep), some rest)

/-- Divides a text into path, query and fragment. -/
def Tail.of (cs : List Char) : Tail :=
  let (front, fragment) := splitFirst '#' cs
  let (path, query) := splitFirst '?' front
  ⟨path, query, fragment⟩

/-- The URL with some parts, query and fragment percent encoded. -/
def assemble (scheme : String) (kind : SchemeKind) (authority : Option Authority) (path : Path)
    (tail : Tail) : Url :=
  { scheme, authority, path
    query := tail.query.map
      (Percent.encode (if kind.isSpecial then Percent.specialQuery else Percent.query))
    fragment := tail.fragment.map (Percent.encode Percent.fragment) }

/-- The part of an authority from a backslash in its port on: a port ends there in every URL. -/
def behindPort (cs : List Char) : List Char :=
  let hostAndPort := ((splitLast '@' cs).map (·.2)).getD cs
  (hostSpan false hostAndPort).2.dropWhile (· != '\\')

/-- The authority at the front of a text, and the rest. -/
def spanAuthority (kind : SchemeKind) (cs : List Char) : List Char × List Char :=
  let front := cs.takeWhile (!endsAuthority kind ·)
  let rest := cs.dropWhile (!endsAuthority kind ·)
  let cut := behindPort front
  (front.take (front.length - cut.length), cut ++ rest)

/-- A URL with an authority, from behind the slashes in front of that. -/
def withAuthority (scheme : String) (kind : SchemeKind) (cs : List Char) : Except Fault Url := do
  let (front, rest) := spanAuthority kind cs
  let a ← authority scheme kind (!rest.isEmpty) front
  let tail := Tail.of rest
  return assemble scheme kind (some a) (pathAfterAuthority kind tail.path) tail

/-- The URL of a file on a host; a path that begins with a drive is on no host. -/
def onHost (host : Host) (path : List Char) (tail : Tail) : Url :=
  let parts := segments .file (dropSlash .file path)
  let host := if onDrive parts || host = .name "localhost" then .name "" else host
  assemble "file" .file (some ⟨"", none, host, none⟩) (filePath parts) tail

/-- The URL of a file, from behind the colon. -/
def file (cs : List Char) : Except Fault Url := do
  let tail := Tail.of cs
  match tail.path with
  | a :: b :: path =>
    if isSlash .file a && isSlash .file b then
      let name := path.takeWhile (!isSlash .file ·)
      if name.isEmpty || isDrive name then return onHost (.name "") path tail
      else return onHost (← specialHost name) (path.drop name.length) tail
    else return onHost (.name "") tail.path tail
  | path => return onHost (.name "") path tail

/-- A URL of a scheme that is not well known, from behind the colon. -/
def other (scheme : String) (cs : List Char) : Except Fault Url :=
  match cs with
  | '/' :: '/' :: rest => withAuthority scheme .other rest
  | _ =>
    let tail := Tail.of cs
    let path := match tail.path with
      | '/' :: rest => Path.segments (segments .other rest)
      | rest => .plain (Percent.encode Percent.controls rest)
    .ok (assemble scheme .other none path tail)

end Parser

/-- The URL that a text spells. -/
def parse (s : String) : Except Fault Url :=
  match Parser.scheme? (Parser.clean s) with
  | none => .error .relative
  | some (scheme, rest) =>
    match SchemeKind.of scheme with
    | .special =>
      Parser.withAuthority scheme .special (rest.dropWhile (Parser.isSlash .special))
    | .file => Parser.file rest
    | .other => Parser.other scheme rest

/-- The text of the URL that a text spells, or what is wrong with it. -/
def normalize (s : String) : String :=
  match parse s with
  | .ok u => u.text
  | .error f => f.message

example : normalize "HTTP:\\\\a@B:80\\.\\x y/../z?q'#f" = "http://a@b/z?q%27#f" := by decide +kernel
example : normalize "file://h/c|/x/../.." = "file:///c:/" := by decide +kernel

end VoiceTicket.Url
