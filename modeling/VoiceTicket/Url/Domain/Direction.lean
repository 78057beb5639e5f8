/-
  Domains that are written from right to left.

  1. **Data** — a `Direction` is what a character does to the direction of the text around it.

  2. **Program** — `isReadable` checks the labels of a domain.

  3. **Specification** — the rule of RFC 5893.  A domain without a character that is written from
     right to left is readable.  In any other, a label begins with a letter, and all of it follows
     the direction of that: a label from right to left has no letters from left to right, not both
     kinds of numbers, and ends in a letter or a number; a label from left to right has no letters
     and no numbers from right to left, and ends in a letter or a European number.  Marks do not
     count at the end.

  4. **Crux** — the rule is there so that the order of the characters on the screen never moves one
     from one label into another.
-/
import VoiceTicket.Url.Domain.Table

namespace VoiceTicket.Url.Domain

/-- What a character does to the direction of the text. -/
inductive Direction where
  | leftToRight
  | rightToLeft
  | arabicNumber
  | europeanNumber
  | mark
  /-- A sign without a direction. -/
  | neutral
  /-- A separator. -/
  | separator
deriving DecidableEq, Repr

namespace Direction

/-- The letters that are written from right to left. -/
def rightToLeftLetters : Ranges := .ofText
  "5be 1 2 2 9+25 13 2 1 d+30 22+3 1+65 f+2 7+2 a+17 1+1e 1d+59 b+3a 9+2 4 3+18 4 9 3 7+29 5+32
   10+2a f2e8+21 1bd+3f a4 98c+11c 4+e1 f+26 a+a5 6+4b a+1e4 1c+10 1e+22 f0+2a 3+2c 27+46 b+31
   4+71 d809+d0 52+22 7+3f3"

/-- The numbers that go with them. -/
def arabicNumbers : Ranges := .ofText
  "660+a 1+2 106c3+a 126+1f"

/-- The other numbers. -/
def europeanNumbers : Ranges := .ofText
  "30+a 6b6+a fbe7+1b"

/-- Marks without a direction. -/
def nonSpacing : Ranges := .ofText
  "300+70 113+7 107+2d 1 1+2 1+2 1 48+b 30+15 10 65+7 2+6 2+2 1+4 23 1e+1b 5b+b 3a+9 9 18+4 1+9
   1+3 1+5 2b+3 3b+9 2a+39 37 1 4+8 4 3+7 a+2 1d 3a 4+4 8 14+2 1a+5 39 4+11 1e+2 3 b+2 39 4+8 4
   14+2 16+8 3a 2 1+4 8+a b+2 1e 3d c 32 3 37 1+3 5+11 b+2 1d 3a f+2 14+2 1c+2 39+2 4+4 8 14+2 1d
   48 7+5 5a 2+7 c+8 62 2+9 b+7 49+2 1b 1 1 37+e 1+5 1+2 5+30 9 66+4 1+6 1+2 2+2 19+2 4+3 10+4 d
   2+2 6 f 2bf+3 3b2+3 1d+2 1e+2 1e+2 43+7 8 2+b 9 a7+2 22 76+3 4+2 9 6+3 db+2 2 3a 1+9 1 2+8 6+d
   30+54 30 1+5 1 5 28+9 c+2 20+4 2+2 1+3 38 1+2 3 1+3 3a+8 2+2 98+3 1+d 1+7 4 6 3+2 c6+40 2d0+21
   bfe+3 8d 60+20 22a+4 6b+2 75d4+4 1+a 20+2 50+2 110 3 4 19+2 5 97+2 1a+12 d 26+8 19+b 2e+3 30
   2+4 2+2 27 43+6 2+2 2+2 c 8 2f 33 1+3 2+2 5+2 1 2a+2 8 ee 2 4 4f30 301+10 3cd e2 95+5 686+f
   28+8 a5+2 23d+4 41+5 13d+2 4d+6 46+b 31+4 7b 36+f 29 2+2 a+3 31+4 2+2 7 3d+3 24+5 1+8 3e c+2
   34+9 a+4 2 5f+3 2 1+2 6 2 9d 3+8 15+2 39+2 3 25+f 46+6 d 1 1 e+2 55+8 2+3 1 17 54+6 1 4+2 1+2
   ee+4 6+2 1+2 1b+2 55+8 2 1+2 6a 1 2+6 1 65+3 2+4 1+5 103+9 1+2 100+2 1 4 90+8 4 20+6 2+2 28+6
   2+4 8 9+6 2+3 2e+d 1+2 c6 1+3 1 c9+e 54+16 2+7 1+2 1+2 7a+15 1 48+2 3 1 15b+2 b+2 34+5 5 1 17
   14e5 6+f 2cc8+c 3+3 9c0+5 3b+7 418 3f+4 51 4cb8+2 1261+47 220+3 11+8 2+7 1e+4 94+3 7bb+37 4+32
   8 e 16+15 550+90 a0+7 177 3d+4 1fc+4 fe+2 f3 2 7+2 5 1da+7 6d+7"

/-- Signs without a direction. -/
def neutrals : Ranges := .ofText
  "0+9 5+e 5+f a+27 1a+5d 1f 1c1+2 7+e 2+1c 1+11 75 80 193+6 76+2 1+2 1 1+2 5a 73 a 10c+4 1f8+2 7
   f5 101+8 7d+7 1c0 fa+4 452+a 66 29a+2 13e 14+1b 135+6 98+22 60c+b6 42+4a 3c+1ac 45+1a 1+91
   19+26c 1+153 100+296 1+69 e5+6 e+7 100+205 3+19 f 6 5+3 60 5a c4+24 1bdc+40 5690+37 146+3 63
   a+2 80+22 66 9f+4 c+2 3a+4 2f2+2 51d2+12 7f+31 45+2 2ba 3e+4d 3+11 77e 219+7 512+14 5fa+d
   968+1d 4ff0 6206+59 3 ba+57 fa8 bf0+240 3d+3 3d b2+478 4+9b 4+137 4e+154 c+29 7+2e 1+7 8+e 4+9
   7+db"

/-- Separators of text. -/
def separators : Ranges := .ofText
  "9+5 e+5"

/-- What a character does to the direction of the text. -/
def of (c : Char) : Direction :=
  if rightToLeftLetters.holds c then .rightToLeft
  else if arabicNumbers.holds c then .arabicNumber
  else if europeanNumbers.holds c then .europeanNumber
  else if nonSpacing.holds c then .mark
  else if neutrals.holds c then .neutral
  else if separators.holds c then .separator
  else .leftToRight

/-- Directions that a label from right to left can have after its first. -/
def goesRight (d : Direction) : Bool :=
  d ∈ [rightToLeft, arabicNumber, europeanNumber, mark, neutral]

/-- Directions that a label from left to right can have after its first. -/
def goesLeft (d : Direction) : Bool := d ∈ [leftToRight, europeanNumber, mark, neutral]

/-- The last direction that counts. -/
def last? (ds : List Direction) : Option Direction := (ds.reverse.dropWhile (· == .mark)).head?

/-- Whether a label with some directions can be read in a domain from right to left. -/
def isReadableLabel : List Direction → Bool
  | [] => true
  | .rightToLeft :: ds =>
    ds.all goesRight && (last? (.rightToLeft :: ds)).any (· ∈ [rightToLeft, arabicNumber,
      europeanNumber]) && !(ds.contains .arabicNumber && ds.contains .europeanNumber)
  | .leftToRight :: ds =>
    ds.all goesLeft && (last? (.leftToRight :: ds)).any (· ∈ [leftToRight, europeanNumber])
  | _ => false

end Direction

/-- Whether the labels of a domain can be read in order. -/
def isReadable (labels : List (List Char)) : Bool :=
  let labels := labels.map (·.map Direction.of)
  let turns := labels.any (·.any fun d => d == .rightToLeft || d == .arabicNumber)
  !turns || labels.all Direction.isReadableLabel

end VoiceTicket.Url.Domain
