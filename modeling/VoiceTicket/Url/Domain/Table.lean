/-
  Tables of characters, written as texts.

  1. **Data** — `Ranges` are closed ranges of characters, by number.

  2. **Program** — `Ranges.ofText` reads ranges; `Ranges.holds` looks a character up.

  3. **Specification** — a table is written as words between blanks, and numbers in it are
     hexadecimal.  A word for a range is the distance from the end of the range before, and behind
     a plus sign the number of its characters if there are more than one.  Tables of properties are
     read for permitted characters alone; their ranges run over all others, to be few.

  4. **Crux** — distances keep the texts short, and whatever is written, the ranges come out in
     increasing order.
-/
import VoiceTicket.Url.Address

namespace VoiceTicket.Url.Domain

/-- The words of a text after a piece of one, which is given in reverse. -/
def wordsAfter (piece : List Char) : List Char → List (List Char)
  | [] => if piece.isEmpty then [] else [piece.reverse]
  | c :: cs =>
    if c = ' ' ∨ c = '\n' then
      if piece.isEmpty then wordsAfter [] cs else piece.reverse :: wordsAfter [] cs
    else wordsAfter (c :: piece) cs

/-- The words of a text. -/
def words (text : String) : List (List Char) := wordsAfter [] text.toList

/-- The number that a word spells. -/
def number (word : List Char) : Nat := (readDigits? 16 word).getD 0

/-- The numbers that a word spells with a sign between them. -/
def numbers (sign : Char) (word : List Char) : List Nat := (splitAt sign word).map number

/-- Closed ranges of characters. -/
abbrev Ranges := List (Nat × Nat)

namespace Ranges

/-- The ranges that some words spell, from a character on. -/
def ofWords (start : Nat) : List (List Char) → Ranges
  | [] => []
  | word :: rest =>
    let (gap, count) := match numbers '+' word with
      | [gap, count] => (gap, count)
      | ns => (ns.headD 0, 1)
    let first := start + gap
    (first, first + (count - 1)) :: ofWords (first + (count - 1) + 1) rest

/-- The ranges that a text spells. -/
def ofText (text : String) : Ranges := ofWords 0 (words text)

/-- Whether a character is in one of the ranges. -/
def holds (ranges : Ranges) (c : Char) : Bool :=
  ranges.any fun (first, last) => first ≤ c.toNat && c.toNat ≤ last

example : ofText "61+1a 2" = [(0x61, 0x7A), (0x7D, 0x7D)] := by decide

end Ranges

end VoiceTicket.Url.Domain
