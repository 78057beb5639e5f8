/-
  Addresses: hosts that are numbers.

  1. **Program** — `Ipv4.parse?` and `Ipv6.parse?` read an address, `Ipv4.text` and `Ipv6.text`
     write it in its one canonical form.

  2. **Specification** — an IPv4 address has up to four parts between points, the last of which
     fills all the bytes that are left; a part is decimal, octal behind a zero, or hexadecimal
     behind `0x`.  A host is meant as one when its last part is a number (`Ipv4.isMeant`).  An IPv6
     address has eight groups, of which one run may be left out, and may end in an IPv4 address.

  3. **Crux** — the canonical form of an IPv6 address leaves out its first longest run of two or
     more zero groups (`Ipv6.gap?`).
-/
import VoiceTicket.Url.Percent

namespace VoiceTicket.Url

/-- Splits a text at every occurrence of a character. -/
def splitAt (sep : Char) : List Char → List (List Char)
  | [] => [[]]
  | c :: cs =>
    match splitAt sep cs with
    | [] => [[c]]
    | part :: parts => if c = sep then [] :: part :: parts else (c :: part) :: parts

/-- The number that digits of some base spell. -/
def readDigits? (base : Nat) (cs : List Char) : Option Nat :=
  cs.foldlM (fun n c => do
    let d ← Percent.digit? c
    if d < base then some (n * base + d) else none) 0

namespace Ipv4

/-! ## IPv4 -/

/-- The number that a part of an address spells. -/
def part? : List Char → Option Nat
  | [] => none
  | '0' :: x :: cs =>
    if x = 'x' ∨ x = 'X' then readDigits? 16 cs else readDigits? 8 (x :: cs)
  | cs => readDigits? 10 cs

/-- The parts of a text between points, but for an empty one at the end. -/
def parts (cs : List Char) : List (List Char) :=
  let ps := splitAt '.' cs
  if ps.length ≠ 1 ∧ ps.getLast? = some [] then ps.dropLast else ps

/-- Whether a host is meant as an address: its last part is a number. -/
def isMeant (cs : List Char) : Bool :=
  match (parts cs).getLast? with
  | some last => (!last.isEmpty && last.all fun c => '0' ≤ c && c ≤ '9') || (part? last).isSome
  | none => false

/-- The address of some numbers, of which the last fills all bytes that are left. -/
def combine (leading : List Nat) (last : Nat) : Option Nat :=
  if leading.length ≤ 3 ∧ last < Nat.pow 256 (4 - leading.length) ∧ leading.all (· ≤ 255) then
    some (leading.foldl (fun n p => n * 256 + p) 0 * Nat.pow 256 (4 - leading.length) + last)
  else none

/-- The address that a text spells. -/
def parse? (cs : List Char) : Option Nat := do
  let numbers ← (parts cs).mapM part?
  combine numbers.dropLast (← numbers.getLast?)

/-- The bytes of an address, the highest first. -/
def bytes (address : Nat) : List Nat :=
  [address / 0x1000000 % 256, address / 0x10000 % 256, address / 256 % 256, address % 256]

/-- The text of an address. -/
def text (address : Nat) : String := String.intercalate "." ((bytes address).map toString)

/-- One byte in its decimal form, without zeros in front. -/
def strictByte? (cs : List Char) : Option Nat :=
  match cs with
  | [] | '0' :: _ :: _ => none
  | cs => (readDigits? 10 cs).filter (· ≤ 255)

/-- Four bytes in their decimal form, as two groups of an IPv6 address. -/
def groups? (cs : List Char) : Option (List Nat) :=
  match (splitAt '.' cs).mapM strictByte? with
  | some [a, b, c, d] => some [a * 256 + b, c * 256 + d]
  | _ => none

example : (parse? "0x7f.1".toList).map text = some "127.0.0.1" := by decide +kernel

end Ipv4

namespace Ipv6

/-! ## IPv6 -/

/-- One group, of one to four hexadecimal digits. -/
def group? (cs : List Char) : Option Nat :=
  if cs.isEmpty ∨ 4 < cs.length then none else readDigits? 16 cs

/-- Groups between colons; the last may be an IPv4 address where one is allowed. -/
def groupList? (ipv4 : Bool) : List (List Char) → Option (List Nat)
  | [] => some []
  | [last] => if ipv4 && last.contains '.' then Ipv4.groups? last else (group? last).map ([·])
  | g :: gs => do return (← group? g) :: (← groupList? ipv4 gs)

/-- Groups between colons; no text at all is no groups. -/
def run? (ipv4 : Bool) (cs : List Char) : Option (List Nat) :=
  if cs.isEmpty then some [] else groupList? ipv4 (splitAt ':' cs)

/-- The text in front of the first double colon, and the text behind it. -/
def splitGap : List Char → List Char × Option (List Char)
  | [] => ([], none)
  | ':' :: ':' :: cs => ([], some cs)
  | c :: cs => let (before, after) := splitGap cs; (c :: before, after)

/-- The eight groups of the address that a text spells. -/
def parse? (cs : List Char) : Option (List Nat) :=
  match splitGap cs with
  | (before, none) => (run? true before).filter (·.length = 8)
  | (before, some after) => do
    let high ← run? false before
    let low ← run? true after
    if high.length + low.length ≤ 7 then
      some (high ++ List.replicate (8 - high.length - low.length) 0 ++ low)
    else none

/-- The number of zeros at the front. -/
def zeros (gs : List Nat) : Nat := (gs.takeWhile (· = 0)).length

/-- Where the first longest run of zeros begins, from some place on, and how long it is. -/
def longestRun : List Nat → Nat → Nat × Nat
  | [], place => (place, 0)
  | g :: gs, place =>
    let (p, n) := longestRun gs (place + 1)
    let here := zeros (g :: gs)
    if here < n then (p, n) else (place, here)

/-- The groups that are left out when the address is written. -/
def gap? (gs : List Nat) : Option (Nat × Nat) :=
  let (p, n) := longestRun gs 0
  if n < 2 then none else some (p, n)

/-- A group in lower case, without zeros in front. -/
def groupText (g : Nat) : String := String.ofList (Nat.toDigits 16 g)

/-- Groups with colons between them. -/
def runText (gs : List Nat) : String := String.intercalate ":" (gs.map groupText)

/-- The text of an address. -/
def text (gs : List Nat) : String :=
  match gap? gs with
  | none => runText gs
  | some (p, n) => runText (gs.take p) ++ "::" ++ runText (gs.drop (p + n))

example : (parse? "0:0:1::192.168.0.1".toList).map text = some "0:0:1::c0a8:1" := by decide +kernel

end Ipv6

end VoiceTicket.Url
