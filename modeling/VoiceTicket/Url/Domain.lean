/-
  Domain names.

  1. **Data** — a `Label` is one part of a domain between points, as it is read and as it is
     written in ASCII.

  2. **Program** — `Domain.toAscii?` gives the ASCII form of a domain.

  3. **Specification** — UTS 46 without its transitional forms.  Every character is replaced by what
     it stands for, and the text brought into normal form C.  A label that is no ASCII then is
     written in Punycode behind `xn--`; a label that begins so already must be the written form of
     one that is in this form.  No label begins with a mark, joiners stand only where they are
     needed, and a domain from right to left is readable.

  4. **Crux** — what a host must not hold is looked for at the very end, since a character can
     stand for one that is denied.  A domain of plain ASCII labels needs none of the tables
     (`isPlain`).
-/
import VoiceTicket.Url.Domain.Direction
import VoiceTicket.Url.Domain.Joining
import VoiceTicket.Url.Domain.Mapping
import VoiceTicket.Url.Domain.Permitted
import VoiceTicket.Url.Domain.Punycode

namespace VoiceTicket.Url.Domain

/-- The ASCII characters that no host may hold. -/
def isDenied (c : Char) : Bool :=
  c ≤ ' ' || c == '\x7f' || c ∈ ['%', '#', '/', ':', '<', '>', '?', '@', '[', '\\', ']', '^', '|']

/-- Whether a text is ASCII. -/
def isAscii (cs : List Char) : Bool := cs.all Punycode.isBasic

/-- What stands in front of a label in Punycode. -/
def punycodeMark : List Char := ['x', 'n', '-', '-']

/-- Whether a text is ASCII without any label in Punycode. -/
def isPlain (cs : List Char) : Bool :=
  isAscii cs && !(splitAt '.' cs).any (punycodeMark.isPrefixOf ·)

/-! ## Labels -/

/-- A part of a domain between points. -/
structure Label where
  text : List Char
  ascii : List Char
deriving DecidableEq, Repr

/-- A text with every character replaced by what it stands for. -/
def mapAll? (cs : List Char) : Option (List Char) :=
  (cs.mapM fun c =>
    match mapped? c with
    | some image => some image
    | none => if isPermitted c then some [c] else none).map List.flatten

/-- Whether a text is in the form that mapping gives it. -/
def isNormal (cs : List Char) : Bool := mapAll? cs = some cs && compose cs == cs

/-- Reads a label that is mapped. -/
def Label.ofMapped? (cs : List Char) : Option Label :=
  if punycodeMark.isPrefixOf cs then
    if isAscii cs then
      match Punycode.decode? (cs.drop punycodeMark.length) with
      | some text => if !isAscii text && isNormal text then some ⟨text, cs⟩ else none
      | none => none
    else none
  else some ⟨cs, if isAscii cs then cs else punycodeMark ++ Punycode.encode cs⟩

/-- Whether a domain can hold a label. -/
def Label.isWellFormed (l : Label) : Bool := !l.text.head?.any isMark && isJoined l.text

/-- The labels of a domain. -/
def labels? (cs : List Char) : Option (List Label) := do
  let mapped ← mapAll? cs
  let labels ← (splitAt '.' (compose mapped)).mapM Label.ofMapped?
  if labels.all Label.isWellFormed && isReadable (labels.map Label.text) then some labels else none

/-! ## Domains -/

/-- The ASCII form of a domain, but for what a host must not hold. -/
def asciiForm? (cs : List Char) : Option (List Char) :=
  let lower := cs.map Char.toLower
  if isPlain lower then some lower
  else (labels? cs).map fun labels => ['.'].intercalate (labels.map Label.ascii)

/-- The ASCII form of a domain, given as the bytes of its UTF-8 form. -/
def toAscii? (bytes : List UInt8) : Option (List Char) := do
  let s ← Text.Utf8.decode? bytes
  let cs ← asciiForm? s.toList
  if cs.any isDenied then none else some cs

example : toAscii? "Example.COM".toUTF8.toList = some "example.com".toList := by decide +kernel
example : toAscii? "a%b".toUTF8.toList = none := by decide +kernel

end VoiceTicket.Url.Domain
