/-
  The characters that a domain can hold.

  1. **Data** — `permitted` are the characters that are valid by UTS 46, as they are: assigned, no
     form of others, no control or format characters but the two joiners.

  2. **Specification** — ASCII characters other than capital letters are all among them; which of
     these a host must not hold is for its own list to say.
-/
import VoiceTicket.Url.Domain.Table

namespace VoiceTicket.Url.Domain

/-- The characters that a domain can hold. -/
def permitted : Ranges := .ofText
  "0+41 1a+25 21+7 1 1+2 1 1+2 4+2 3 3 17 7+21 1 1 1 1 1 1 1 1 1 1 1 1 1 1 1 1 1 1 1 1 1 1 1 1 1 3
   1+2 1 1 1 3 1 1 1 2 1 1 1 1 1 1 1 1 1 1 1 1 1 1 1 1 1 1 1 1 1 1 2 1 1 1 2 1 2 3+2 4 2 3+3 2 2 1
   1 2 1+2 1 2 3 1 2+3 1+7 a 1 1 1 1 1 1 1+2 1 1 1 1 1 1 1 1 1+2 4 3 1 1 1 1 1 1 1 1 1 1 1 1 1 1 1
   1 1 1 1 1 1 1 1 1 1 1 1 1 1+7 2 2+2 1 4 1 1 1 1+61 9+1f 6+2 5+5b 2 3+9 1+20 1 1 1 1 3+3 12
   1b+23 8 1 1 1 1 1 1 1 1 1 1 1 1 3 2 1 2+2 33+30 1 1 1 1 1 1 1 1 1 1 1 1 1 1 1 1 1+9 1 1 1 1 1 1
   1 1 1 1 1 1 1 1 1 1 1 1 1 1 1 1 1 1 1 1 1 2 1 1 1 1 1 1+2 1 1 1 1 1 1 1 1 1 1 1 1 1 1 1 1 1 1 1
   1 1 1 1 1 1 1 1 1 1 1 1 1 1 1 1 1 1 1 1 1 1 1 1 1 1 1 1 1 29+2e 1+3 2+3 1+37 8+1b 4+6 11+16
   1+58 4+64 1+30 2+3b 2+65 e+3b 2+31 2+f 1+1c 2 1+b 5+20 7+4b 1+75 8+24 1+8 2+2 2+16 1+7 1 3+4
   2+9 2+2 2+4 8 8+4 2+19 2+3 1+6 4+2 2+16 1+7 1 2 2+2 2 1+5 4+2 2+3 3 a 9+11 a+3 1+9 1+3 1+16 1+7
   1+2 1+5 2+a 1+3 1+3 2 f+4 2+c 7+7 1+3 1+8 2+2 2+16 1+7 1+2 1+5 2+9 2+2 2+3 7+3 7+5 2+12 a+2 1+6
   3+3 1+4 3+2 1 1+2 3+2 3+3 3+c 4+5 3+3 1+4 2 6 e+15 5+d 1+3 1+17 1+10 2+9 1+3 1+4 7+2 1+3 1+2
   2+4 2+a 7+16 1+3 1+17 1+a 1+5 2+9 1+3 1+4 7+2 5+3 1+4 2+a 1+3 c+d 1+3 1+33 1+3 1+6 4+10 2+1a
   1+3 1+12 3+18 1+9 1 2+7 3 4+6 1 1+8 6+a 2+3 c+32 1+7 4+1d 25+2 1 1+5 1+18 1 1+c 1+a 2+5 1 1+7
   1+a 4+2 20+c 1+36 1+4 1+4 1+4 1+4 1+4 1+c 1+3 4+2 1 5+7 1+11 1+4 1+4 1+4 1+4 1+4 1+c 1+3 1+f
   1+d 25+a0 30+2c 1+62 2+e8 1+4 2+7 1 1+4 2+29 1+4 2+21 1+4 2+7 1 1+4 2+f 1+39 1+4 2+43 2+20 3+1a
   6+56 a+280 1+1c 3+59 7+16 9+18 9+14 c+d 1+3 1+2 c+34 2+28 2+a 6+a 6+b 5+a 6+59 7+2b 5+46 a+1f
   1+c 4+c 4 3+2a 2+5 b+2c 4+1a 6+b 3+3e 2+41 1+1d 2+b 6+a 6+e 2+2e 2+c 14+4d 1+a6 8+3c 3+f 3+33 a
   35+8 8+2b 5+2c 3 b 12 1c+d 1+22 25+40 1 1 1 1 1 1 1 1 1 1 1 1 1 1 1 1 1 1 1 1 1 1 1 1 1 1 1 1 1
   1 1 1 1 1 1 1 1 1 1 1 1 1 1 1 1 1 1 1 1 1 1 1 1 1 1 1 1 1 1 1 1 1 1 1 1 1 1 1 1 1 1 1 1 1 1+5
   2+2 1 1 1 1 1 1 1 1 1 1 1 1 1 1 1 1 1 1 1 1 1 1 1 1 1 1 1 1 1 1 1 1 1 1 1 1 1 1 1 1 1 1 1 1 1 1
   1 1 1+9 8+6 a+8 8+8 8+6 a+8 8+8 8 1 1 1 1 1 1 33+2 4 f 9+3 3+2 8+3 1+4 e 15+2 2 1+5 1+c 3 8+3 2
   2+4 1 1+8 3+d 1+7 41+8 1+19 e+21 13 3 b 2+2 5+2 3 1 1 1 4 b 6+4 5+6 30+3 1+5 1+2 4+9c 2 2+f8
   2+ff 16+b a0+521 1+67 3+65 1+97 2+8a 30+30 1 3+2 1 1 1 4 1+2 1+6 5 1 1 1 1 1 1 1 1 1 1 1 1 1 1
   1 1 1 1 1 1 1 1 1 1 1 1 1 1 1 1 1 1 1 1 1 1 1 1 1 1 1 1 1 1 1 1 1 1 1+8 1 1+4 1 5+2d 1 5 2+38 8
   e+18 9+7 1+7 1+7 1+7 1+7 1+7 1+7 1+7 1+7e 22+1a 1+4 1+53 10e 1+33 1 3+5 1+56 2+2 2+2 1+5f 6+2b
   60+2 e+46 a+10 48+8 2f 180+708d 3+37 9+15c 15 1 1 1 1 1 1 1 1 1 1 1 1 1 1 1 1 1 1 1 1 1 1+13 1
   1 1 1 1 1 1 1 1 1 1 1 1 1 2+5a 8+22 1 1 1 1 1 1 1+3 1 1 1 1 1 1 1 1 1 1 1 1 1 1 1 1 1 1 1 1 1 1
   1 1 1 1 1 1 1 1 1 1+8 1 1 2 1 1 1 1+4 1 1+2 1 1+3 1 1 1 1 1 1 1 1 1 1 5 5 1 1 1 1 1 1 1 4 1 2 1
   1 1 1 1 1 1 1a+2 2+33 3+a 6+38 8+46 8+c 6+74 b+1e 3+4e 1+b 4+21 1+37 9+e 2+a 2+67 18+1c a+6 2+6
   2+6 9+7 1+7 1+2c 4+9 1+2 54+2e 2+a 6+2ba4 c+17 4+31 2212+2 1 1+2 a 1 1+2 2+3 f4 93+21 16b+12
   40+2 36+8 2d+3 20+10 15+2 2c 18c+c 1+1a 1+13 1+2 1+f 2+e 22+7b 5+3 4+2d 3+58 1+d 3 2f+2e 82+1d
   3+31 f+1c 4+24 9+1e 5+2b 5+1e 1+25 4+e 52+76 2+a 2e+24 4+28 8+34 b 27+b 1+f 1+7 1+2 3+34 c+137
   9+16 a+8 18 7f+6 2 1+2c 1+2 3 2+17 1+48 8+9 30+13 1+2 5+21 3+1b 5+1b 26+38 4+14 2+32 1+2 5+8
   1+3 1+1d 2+3 4+a 7+9 7+40 20+27 4+c 9+36 3+1d 2+1b 5+1a 7+4 c+7 50+49 77+33 7+2e 8+a 6+10 19+1d
   8+2 d0+1f 1+2a 1+3 2+2 10+6 8+9 21+2e 8+2a 16+1a 26+1c 14+17 9+4e 4+24 9+3e 1+5 d+19 7+a 6+35
   1+12 8+27 9+60 1+14 b+12 1+2f 3e+7 1 1+4 1+f 1+b 6+3b 5+a 6+4 1+8 2+2 2+16 1+7 1+2 1+5 1+a 2+2
   2+3 2 6 5+7 2+7 3+5 b+a 1 2 1+26 1+a 1 2 1+4 1+a 1+2 8+2 1d+5c 1+5 1e+48 8+a a6+36 2+26 22+45
   b+a 6+d 13+3a 6+a 6+14 1c+1b 2+f 4+17 b9+3c 84+33 c+8 2 2+8 1+2 1+1e 1+2 2+c 9+a 46+8 2+2e 2+b
   1b+48 8+53 d+49 7+a 56+8 58+22 e+a 6+9 1+2d 1+e a+1d 3+20 2+16 1+e 49+7 1+2 1+2c 3 1+2 1+9 8+a
   6+6 1+2 1+25 1+2 1+6 7+a 6+2c 4+a f6+19 7+11 1+29 3+1d 55 f+32 d+39b 66+6f 1+5 b+c4 a4c+63
   d+430 10+16 a+f9b 5+247 1ab9+3a 6c6+239 7+1f 1+a 4+51 1+a 6+1e 2+6 a+46 a+a 1+7 1+15 5+13
   1b0+3a e6+3b 20+19 2c+4b 4+39 7+11 40+5 b+7 9+1cd6 29+20 61+73 21fd+4 1+7 1+2 1+123 f 1d+3 2
   e+4 8+18c 904+6b 5+d 3+9 7+a 2+4 f60+d6 24+3 3+1b4 6+17 f+11 f+2e 2+17 9+74 3c+f6 a+27 2+35 7+e
   8+40 6+2a 15+46 7a+14 c+14 c+57 9+19 487+28c f+5 1+f 450+1f 6+6 d5+7 1+11 2+7 1+2 1+5 64 70+2d
   3+e 2+a 4+2 140+1f 11+3a 5 1d0+2a d6+2b 4 c0+1f 1+16 8+2 e0+7 1+4 1+2 1+f 1+c5 2+10 4b+2a 4+a
   4+2 311+44 4c+3d 1b2+2 10e+2c 4+64 c+f 2+f 1+f 1+25 15+5 1f 20+1a 3+23 1+1d 38+1a 60+6 9a+3d9
   3+11 3+d 3+da 6+c 4 f+c 4+38 8+a 6+28 8+1e 2+c 4+2 e+9 27+158 8+e 2+d 3+b 3+39 1 4+10 2+c 4+a
   7+93 1+5c a 405+a6e0 20+111e 2+168e 2+1d31 f+26e 11a2+134b 5+212a"

/-- The marks: characters that combine with the one in front of them. -/
def marks : Ranges := .ofText
  "300+70 113+7 107+2d 1 1+2 1+2 1 48+b 30+15 10 65+7 2+6 2+2 1+4 23 1e+1b 5b+b 3a+9 9 18+4 1+9
   1+3 1+5 2b+3 3b+9 2a+3a 36+3 1+12 1+7 a+2 1d+3 38 1+10 9 a+2 1a+6 38+16 1e+2 3 b+3 38 1+10 14+2
   16+a 38 1+1a a+2 1e 3b+10 9 28+5 37 1+19 b+2 1d+3 38 1+19 b+2 f+11 37+2 1+10 9 a+2 1d+3 46+16
   12+2 3d 2+7 c+8 62 2+9 b+7 49+2 1b 1 1 4+2 31+14 1+2 5+30 9 64+14 17+4 4+3 1+3 2+7 3+4 d+c 1
   a+4 2bf+3 3b2+4 1c+3 1d+2 1e+2 42+1e 9 a7+2 22 76+1c db+5 39+2b 30+55 2f+11 26+9 c+3 1e+d 38+e
   30+14 98+3 1+15 4 6 2+3 c6+40 2d0+21 bfe+3 8d 60+20 22a+6 69+2 75d4+4 1+a 20+2 50+2 110 3 4
   17+5 4 53+2 32+12 1a+12 d 26+8 19+d 2c+4 2f+e 24 43+e c 8+2 2d+3 32 1+3 2+2 5+2 1 29+5 5+2 ec+8
   1+2 4f30 301+10 3cd e2 95+5 686+f 28+8 a5+2 23d+4 41+5 13d+2 4d+6 46+b 31+4 7a+3 35+f 29 2+2
   a+4 2d+b 7 3d+3 24+e 10+2 2c c+3 30+e 8+4 1+2 5c+c 6 2 9d+c 15+4 37+2 1+10 9 a+13 46+6 d 1 1
   e+2 52+12 17 51+14 eb+12 1b+2 52+11 6a+d 65+f 100+f f5+f 1 1+2 8d+10 3 1c+a 28+7 1+4 8 9+b
   2e+10 c6 1+3 1 c8+11 52+25 7a+15 1 42+e 15b+4 9+2 1 30+f 17 14e5 6+f 2cc8+c 3+3 9c0+5 3b+7 418
   1+42 51+e 4cab+2 1261+47 21e+5 3+16 2+7 1e+4 94+3 7bb+37 4+32 8 e 16+15 550+90 a0+7 177 3d+4
   1fc+4 fe+2 f3 2 7+2 5 1da+7 6d+7"

/-- Whether a domain can hold a character. -/
def isPermitted (c : Char) : Bool := permitted.holds c

/-- Whether a character combines with the one in front of it. -/
def isMark (c : Char) : Bool := marks.holds c

end VoiceTicket.Url.Domain
