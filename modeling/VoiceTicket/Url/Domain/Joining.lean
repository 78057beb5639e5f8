/-
  The two joiners in a domain.

  1. **Program** — `isJoined` checks the joiners of a label.

  2. **Specification** — the rules of RFC 5892.  A joiner stands behind a virama.  A non-joiner
     may also stand between two letters that would join without it, marks not counted.

  3. **Crux** — joiners have no form of their own, so that a label may hold one only where it
     changes how its neighbours look.
-/
import VoiceTicket.Url.Domain.Composition

namespace VoiceTicket.Url.Domain

/-- Letters that join to the left only. -/
def leftJoining : Ranges := .ofText
  "a872 625a 9 228 2ca"

/-- Letters that join to the right only. -/
def rightJoining : Ranges := .ofText
  "622+4 1 1 5+4 15 28+3 14+12 26 2+9 1 1 2+2 1 18+2 20 4+5 4 9 1 1 2 1d b+3 f+2 4 1+2 3+2 c6 5+2
   1 a 1+3 e 1+1a b 1b+3 1 2+2 6 1020b 1 1+2 3+5 a 3 2 a 91 1+3 3 2 1+2 1 17+4 175 19f 70 20 1f+2
   3e+3 2+2 2 4+2 5"

/-- Letters that join on both sides. -/
def dualJoining : Ranges := .ofText
  "620 5 1 1+5 4+d 1+7 1+2 23+2 9+f 12+26 1+2 9 1 1+2 28+3 2 12+3 5+4 1+9 1 1 1+2 1f+b 3+f 2+4 1
   2+3 2+6 4a+21 56+5 2 1+a 1 a 1+4 2 1d 2+5 1 10+a 5+2 2+6 1+f f3e 18+59 e+22 1 8f95+32 624e+5
   e+4 1+5 1+3 a+4 91 1 3+3 1+2 1 2 1c+2 152+21 1 19f+2 1+2 68+3 1+11 c+3 1c+4 2+c 2e 1+2 4 2+2
   1+2 1 2 5 d957+22"

/-- Characters that joins pass through. -/
def transparent : Ranges := .ofText
  "300+70 113+7 107+2d 1 1+2 1+2 1 48+b 30+15 10 65+7 2+6 2+2 1+4 23 1e+1b 5b+b 3a+9 9 18+4 1+9
   1+3 1+5 2b+3 3b+9 2a+39 37 1 4+8 4 3+7 a+2 1d 3a 4+4 8 14+2 1a+5 39 4+11 1e+2 3 b+2 39 4+8 4
   14+2 16+8 3a 2 1+4 8+a b+2 1e 3d c 32 3 37 1+3 5+11 b+2 1d 3a 2 6 5+2 14+2 1c+2 39+2 4+4 8 14+2
   1d 48 7+5 5a 2+7 c+8 62 2+9 b+7 49+2 1b 1 1 37+e 1+5 1+2 5+30 9 66+4 1+6 1+2 2+2 19+2 4+3 10+4
   d 2+2 6 f 2bf+3 3b2+3 1d+2 1e+2 1e+2 43+7 8 2+b 9 a7+2 22 76+3 4+2 9 6+3 db+2 2 3a 1+9 1 2+8
   6+d 30+54 30 1+5 1 5 28+9 c+2 20+4 2+2 1+3 38 1+2 3 1+3 3a+8 2+2 98+3 1+d 1+7 4 6 3+2 c6+40
   2d0+21 bfe+3 8d 60+20 22a+4 6b+2 75d4+4 1+a 20+2 50+2 110 3 4 19+2 5 97+2 1a+12 d 26+8 19+b
   2e+3 30 2+4 2+2 27 43+6 2+2 2+2 c 8 2f 33 1+3 2+2 5+2 1 2a+2 8 ee 2 4 4f30 301+10 3cd e2 95+5
   686+f 28+8 a5+2 23d+4 41+5 13d+2 4d+6 46+b 31+4 7b 36+f 29 2+2 a+3 31+4 2+2 7 3d+3 24+5 1+8 3e
   c+2 34+9 a+4 2 5f+3 2 1+2 6 2 9d 3+8 15+2 39+2 3 25+f 46+6 d 1 1 e+2 55+8 2+3 1 17 54+6 1 4+2
   1+2 ee+4 6+2 1+2 1b+2 55+8 2 1+2 6a 1 2+6 1 65 1 2+4 1+5 103+9 1+2 100+2 1 4 90+8 4 20+a 28+6
   2+4 8 9+6 2+3 2e+d 1+2 c6 1+3 1 c9+e 1 52+16 2+7 1+2 1+2 7a+15 1 48+2 3 1 15b+2 b+2 34+5 5 1 17
   14e5 6+f 2cc8+c 3+3 9c0+5 3b+7 418 3f+4 51 4cb8+2 1261+47 220+3 11+8 2+7 1e+4 94+3 7bb+37 4+32
   8 e 16+15 550+90 a0+7 177 3d+4 1fc+4 fe+2 f3 2 7+2 5 1da+7 6d+8"

/-- Whether a character is a virama: it kills the vowel in front of it. -/
def isVirama (c : Char) : Bool := combiningClass c = 9

/-- The first character that joins do not pass through. -/
def neighbour? (cs : List Char) : Option Char := (cs.dropWhile transparent.holds).head?

/-- Whether the letters before (the nearest first) and behind would join. -/
def wouldJoin (before behind : List Char) : Bool :=
  (neighbour? before).any (fun c => leftJoining.holds c || dualJoining.holds c)
    && (neighbour? behind).any fun c => rightJoining.holds c || dualJoining.holds c

/-- Checks the joiners in a text behind some characters, of which the nearest comes first. -/
def isJoinedAfter (before : List Char) : List Char → Bool
  | [] => true
  | c :: cs =>
    (if c = '\u200d' then before.head?.any isVirama
      else if c = '\u200c' then before.head?.any isVirama || wouldJoin before cs
      else true)
    && isJoinedAfter (c :: before) cs

/-- Checks the joiners of a label. -/
def isJoined (label : List Char) : Bool := isJoinedAfter [] label

end VoiceTicket.Url.Domain
