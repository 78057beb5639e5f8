/-
  Marks in order, and characters composed of them.

  1. **Data** — `combiningClasses` says of each mark where it attaches; `compositions` are the
     characters that are composed of two others.

  2. **Program** — `compose` brings a text of permitted characters into normal form C: it takes
     every character apart, puts the marks behind each other in the order of their classes, and
     puts together again what can be.

  3. **Specification** — marks of one class keep their order, and a mark is put together with the
     character in front only if no mark of its class or above stands between them.  Syllables of
     Hangul are composed by arithmetic.

  4. **Crux** — in `compositions` a character comes before the first of the two that it is composed
     of, so that one pass over the table takes it apart completely.
-/
import VoiceTicket.Url.Domain.Table

namespace VoiceTicket.Url.Domain

/-- Where marks attach, for all classes but the class 0 of what is no mark. -/
def combiningClasses : List (Nat × String) :=
  [
    (1,
      "334+5 199b d+7 3e9+2 4+3 a+2 3+2 e94d 60b6+5 51a9 14c8+3"),
    (6,
      "16ff0+2"),
    (7,
      "93c 7f 7f 7f 7f ff 7f 37a afc b1 50 8d7b 6706 b8 56 6b b2 51+2 109 7c fc f6 182 108 3fe
       cc07"),
    (8,
      "3099+2"),
    (9,
      "94d 7f 7f 7f 7f 7f 7f 7f 6d+2 10 7c 6f 7f c9 b4+2 6d9+2 1e 9d 28d e3 65+2 46+2 118b 7a86 25
       97 8e 6c 135 f6 5e51 606 29 e 39 79+2 8b 74 b4 62 f4 7f fc 7f 76 74 10d 103+2 a1 53 12 51
       1a5 104+2 51 1a9+2"),
    (10,
      "5b0"),
    (11,
      "5b1"),
    (12,
      "5b2"),
    (13,
      "5b3"),
    (14,
      "5b4"),
    (15,
      "5b5"),
    (16,
      "5b6"),
    (17,
      "5b7"),
    (18,
      "5b8 e"),
    (19,
      "5b9+2"),
    (20,
      "5bb"),
    (21,
      "5bc"),
    (22,
      "5bd"),
    (23,
      "5bf"),
    (24,
      "5c1"),
    (25,
      "5c2"),
    (26,
      "fb1e"),
    (27,
      "64b 2a4"),
    (28,
      "64c 2a4"),
    (29,
      "64d 2a4"),
    (30,
      "618 35"),
    (31,
      "619 35"),
    (32,
      "61a 35"),
    (33,
      "651"),
    (34,
      "652"),
    (35,
      "670"),
    (36,
      "711"),
    (84,
      "c55"),
    (91,
      "c56"),
    (103,
      "e38+2"),
    (107,
      "e48+4"),
    (118,
      "eb8+2"),
    (122,
      "ec8+4"),
    (129,
      "f71"),
    (130,
      "f72 7+4 2"),
    (132,
      "f74"),
    (202,
      "321+2 4+2 1aa7"),
    (214,
      "1dce"),
    (216,
      "31b c1d 1c22b+2 7+5"),
    (218,
      "1dfa 122f"),
    (220,
      "316+4 2+5 2+4 2+b 5+4 a+3 3+2 4+4 2+2 236 4 4 6+6 2 1a 8f+2 5 2 83 6 2 43 2 2+3 1+2 1 3 1 1
       1 a9 a 5b+3 3d+3 33+5 f 2 2 3+3 6 2+2 57 5c5+2 1b 1 8e c6 8ad dc 66 35+6 2 1+2 2+2 5 a1
       168+5 2+4 d d4 7 4 29 3 1 2e8 3+4 883b+3 186 5372+7 3cf e2 72c 2c ab 416+3 46+2 3 1+4 32 1
       c1f5+8 7+2 1362 3e1+7"),
    (222,
      "59a 12 138b 16f3"),
    (224,
      "302e+2"),
    (226,
      "1d16d"),
    (228,
      "5ae 12fa 54d+2 1232"),
    (230,
      "300+15 28+a 3+3 3+3 4 3 7+d 113+5 10a+4 1+3 2+6 6+2 1+2 2 14 4b+8 3b+2 2+5 1+2 77+7 2+4 1
       2+2 2+2 43 1+2 1+2 3 2 1+3 1 1 1 1+2 a0+7 1 22+4 1+9 1+3 1+5 6a 3+4 2a+5 5+e 2+2 1+2 1+3
       6+3 1+2 2+5 51 1+2 a9 583+2 2+2 3d5+3 47d 15c dc 5d+8 33+5 6+2 4+2 2+5 1+4 9c 1+7 15c+3 7+2
       4 13 3+2 c6+2 1+7 1+2 4+25 5 2 2d1+2 2+4 3+2 4 5 1 6 bfe+3 ee+20 786f 4+a 20+2 50+2 1ee+12
       1be 1+2 3+2 5+2 1 535e+7 7+2 546+5 694 28 ac 23e+4 183+2 9b+3 1 35 1 17b+3 263+f e9 56d1+7
       664e+5 20+4 94+3 dbb+90 a0+7 177 3d+4 1ff 454+6"),
    (232,
      "315 4 3d 1a9d 1235 1b4bf+2"),
    (233,
      "35c 2 2 1a99"),
    (234,
      "35d+2 1+2 1a6b")]

/-- Where marks attach. -/
def combiningRanges : List (Nat × Ranges) :=
  combiningClasses.map fun (n, text) => (n, .ofText text)

/-- Where a mark attaches; 0 for what is no mark. -/
def combiningClass (c : Char) : Nat :=
  ((combiningRanges.find? fun entry => entry.2.holds c).map (·.1)).getD 0

/-- A character and the two that it is composed of. -/
structure Composition where
  whole : Nat
  first : Nat
  second : Nat

/-- The composition that a word spells. -/
def Composition.ofWord? (word : List Char) : Option Composition :=
  match numbers '.' word with
  | [whole, first, second] => some ⟨whole, first, second⟩
  | _ => none

/-- The permitted characters that are composed of two others. -/
def compositions : List Composition := (words
  "1d6.fc.304 1d8.fc.301 1da.fc.30c 1dc.fc.300 1df.e4.304 1e1.227.304 1ed.1eb.304 1fb.e5.301
   22b.f6.304 22d.f5.304 231.22f.304 390.3ca.301 3b0.3cb.301 ccb.cca.cd5 ddd.ddc.dca 1e09.e7.301
   1e15.113.300 1e17.113.301 1e1d.229.306 1e2f.ef.301 1e39.1e37.304 1e4d.f5.301 1e4f.f5.308
   1e51.14d.300 1e53.14d.301 1e5d.1e5b.304 1e65.15b.307 1e67.161.307 1e69.1e63.307 1e79.169.301
   1e7b.16b.308 1ea5.e2.301 1ea7.e2.300 1ea9.e2.309 1eab.e2.303 1ead.1ea1.302 1eaf.103.301
   1eb1.103.300 1eb3.103.309 1eb5.103.303 1eb7.1ea1.306 1ebf.ea.301 1ec1.ea.300 1ec3.ea.309
   1ec5.ea.303 1ec7.1eb9.302 1ed1.f4.301 1ed3.f4.300 1ed5.f4.309 1ed7.f4.303 1ed9.1ecd.302
   1edb.1a1.301 1edd.1a1.300 1edf.1a1.309 1ee1.1a1.303 1ee3.1a1.323 1ee9.1b0.301 1eeb.1b0.300
   1eed.1b0.309 1eef.1b0.303 1ef1.1b0.323 1f02.1f00.300 1f03.1f01.300 1f04.1f00.301 1f05.1f01.301
   1f06.1f00.342 1f07.1f01.342 1f12.1f10.300 1f13.1f11.300 1f14.1f10.301 1f15.1f11.301
   1f22.1f20.300 1f23.1f21.300 1f24.1f20.301 1f25.1f21.301 1f26.1f20.342 1f27.1f21.342
   1f32.1f30.300 1f33.1f31.300 1f34.1f30.301 1f35.1f31.301 1f36.1f30.342 1f37.1f31.342
   1f42.1f40.300 1f43.1f41.300 1f44.1f40.301 1f45.1f41.301 1f52.1f50.300 1f53.1f51.300
   1f54.1f50.301 1f55.1f51.301 1f56.1f50.342 1f57.1f51.342 1f62.1f60.300 1f63.1f61.300
   1f64.1f60.301 1f65.1f61.301 1f66.1f60.342 1f67.1f61.342 1fd2.3ca.300 1fd7.3ca.342 1fe2.3cb.300
   1fe7.3cb.342 16126.16121.1611f 16127.16122.1611f 16128.16121.16120 16d6a.16d69.16d67 e0.61.300
   e1.61.301 e2.61.302 e3.61.303 e4.61.308 e5.61.30a e7.63.327 e8.65.300 e9.65.301 ea.65.302
   eb.65.308 ec.69.300 ed.69.301 ee.69.302 ef.69.308 f1.6e.303 f2.6f.300 f3.6f.301 f4.6f.302
   f5.6f.303 f6.6f.308 f9.75.300 fa.75.301 fb.75.302 fc.75.308 fd.79.301 ff.79.308 101.61.304
   103.61.306 105.61.328 107.63.301 109.63.302 10b.63.307 10d.63.30c 10f.64.30c 113.65.304
   115.65.306 117.65.307 119.65.328 11b.65.30c 11d.67.302 11f.67.306 121.67.307 123.67.327
   125.68.302 129.69.303 12b.69.304 12d.69.306 12f.69.328 135.6a.302 137.6b.327 13a.6c.301
   13c.6c.327 13e.6c.30c 144.6e.301 146.6e.327 148.6e.30c 14d.6f.304 14f.6f.306 151.6f.30b
   155.72.301 157.72.327 159.72.30c 15b.73.301 15d.73.302 15f.73.327 161.73.30c 163.74.327
   165.74.30c 169.75.303 16b.75.304 16d.75.306 16f.75.30a 171.75.30b 173.75.328 175.77.302
   177.79.302 17a.7a.301 17c.7a.307 17e.7a.30c 1a1.6f.31b 1b0.75.31b 1ce.61.30c 1d0.69.30c
   1d2.6f.30c 1d4.75.30c 1e3.e6.304 1e7.67.30c 1e9.6b.30c 1eb.6f.328 1ef.292.30c 1f0.6a.30c
   1f5.67.301 1f9.6e.300 1fd.e6.301 1ff.f8.301 201.61.30f 203.61.311 205.65.30f 207.65.311
   209.69.30f 20b.69.311 20d.6f.30f 20f.6f.311 211.72.30f 213.72.311 215.75.30f 217.75.311
   219.73.326 21b.74.326 21f.68.30c 227.61.307 229.65.327 22f.6f.307 233.79.304 3ac.3b1.301
   3ad.3b5.301 3ae.3b7.301 3af.3b9.301 3ca.3b9.308 3cb.3c5.308 3cc.3bf.301 3cd.3c5.301 3ce.3c9.301
   439.438.306 450.435.300 451.435.308 453.433.301 457.456.308 45c.43a.301 45d.438.300 45e.443.306
   477.475.30f 4c2.436.306 4d1.430.306 4d3.430.308 4d7.435.306 4db.4d9.308 4dd.436.308 4df.437.308
   4e3.438.304 4e5.438.308 4e7.43e.308 4eb.4e9.308 4ed.44d.308 4ef.443.304 4f1.443.308 4f3.443.30b
   4f5.447.308 4f9.44b.308 622.627.653 623.627.654 624.648.654 625.627.655 626.64a.654 6c0.6d5.654
   6c2.6c1.654 6d3.6d2.654 929.928.93c 931.930.93c 934.933.93c 9cb.9c7.9be 9cc.9c7.9d7 b48.b47.b56
   b4b.b47.b3e b4c.b47.b57 b94.b92.bd7 bca.bc6.bbe bcb.bc7.bbe bcc.bc6.bd7 c48.c46.c56 cc0.cbf.cd5
   cc7.cc6.cd5 cc8.cc6.cd6 cca.cc6.cc2 d4a.d46.d3e d4b.d47.d3e d4c.d46.d57 dda.dd9.dca ddc.dd9.dcf
   dde.dd9.ddf 1026.1025.102e 1b06.1b05.1b35 1b08.1b07.1b35 1b0a.1b09.1b35 1b0c.1b0b.1b35
   1b0e.1b0d.1b35 1b12.1b11.1b35 1b3b.1b3a.1b35 1b3d.1b3c.1b35 1b40.1b3e.1b35 1b41.1b3f.1b35
   1b43.1b42.1b35 1e01.61.325 1e03.62.307 1e05.62.323 1e07.62.331 1e0b.64.307 1e0d.64.323
   1e0f.64.331 1e11.64.327 1e13.64.32d 1e19.65.32d 1e1b.65.330 1e1f.66.307 1e21.67.304 1e23.68.307
   1e25.68.323 1e27.68.308 1e29.68.327 1e2b.68.32e 1e2d.69.330 1e31.6b.301 1e33.6b.323 1e35.6b.331
   1e37.6c.323 1e3b.6c.331 1e3d.6c.32d 1e3f.6d.301 1e41.6d.307 1e43.6d.323 1e45.6e.307 1e47.6e.323
   1e49.6e.331 1e4b.6e.32d 1e55.70.301 1e57.70.307 1e59.72.307 1e5b.72.323 1e5f.72.331 1e61.73.307
   1e63.73.323 1e6b.74.307 1e6d.74.323 1e6f.74.331 1e71.74.32d 1e73.75.324 1e75.75.330 1e77.75.32d
   1e7d.76.303 1e7f.76.323 1e81.77.300 1e83.77.301 1e85.77.308 1e87.77.307 1e89.77.323 1e8b.78.307
   1e8d.78.308 1e8f.79.307 1e91.7a.302 1e93.7a.323 1e95.7a.331 1e96.68.331 1e97.74.308 1e98.77.30a
   1e99.79.30a 1ea1.61.323 1ea3.61.309 1eb9.65.323 1ebb.65.309 1ebd.65.303 1ec9.69.309 1ecb.69.323
   1ecd.6f.323 1ecf.6f.309 1ee5.75.323 1ee7.75.309 1ef3.79.300 1ef5.79.323 1ef7.79.309 1ef9.79.303
   1f00.3b1.313 1f01.3b1.314 1f10.3b5.313 1f11.3b5.314 1f20.3b7.313 1f21.3b7.314 1f30.3b9.313
   1f31.3b9.314 1f40.3bf.313 1f41.3bf.314 1f50.3c5.313 1f51.3c5.314 1f60.3c9.313 1f61.3c9.314
   1f70.3b1.300 1f72.3b5.300 1f74.3b7.300 1f76.3b9.300 1f78.3bf.300 1f7a.3c5.300 1f7c.3c9.300
   1fb0.3b1.306 1fb1.3b1.304 1fb6.3b1.342 1fc6.3b7.342 1fd0.3b9.306 1fd1.3b9.304 1fd6.3b9.342
   1fe0.3c5.306 1fe1.3c5.304 1fe4.3c1.313 1fe5.3c1.314 1fe6.3c5.342 1ff6.3c9.342 219a.2190.338
   219b.2192.338 21ae.2194.338 21cd.21d0.338 21ce.21d4.338 21cf.21d2.338 2204.2203.338
   2209.2208.338 220c.220b.338 2224.2223.338 2226.2225.338 2241.223c.338 2244.2243.338
   2247.2245.338 2249.2248.338 2260.3d.338 2262.2261.338 226d.224d.338 226e.3c.338 226f.3e.338
   2270.2264.338 2271.2265.338 2274.2272.338 2275.2273.338 2278.2276.338 2279.2277.338
   2280.227a.338 2281.227b.338 2284.2282.338 2285.2283.338 2288.2286.338 2289.2287.338
   22ac.22a2.338 22ad.22a8.338 22ae.22a9.338 22af.22ab.338 22e0.227c.338 22e1.227d.338
   22e2.2291.338 22e3.2292.338 22ea.22b2.338 22eb.22b3.338 22ec.22b4.338 22ed.22b5.338
   304c.304b.3099 304e.304d.3099 3050.304f.3099 3052.3051.3099 3054.3053.3099 3056.3055.3099
   3058.3057.3099 305a.3059.3099 305c.305b.3099 305e.305d.3099 3060.305f.3099 3062.3061.3099
   3065.3064.3099 3067.3066.3099 3069.3068.3099 3070.306f.3099 3071.306f.309a 3073.3072.3099
   3074.3072.309a 3076.3075.3099 3077.3075.309a 3079.3078.3099 307a.3078.309a 307c.307b.3099
   307d.307b.309a 3094.3046.3099 309e.309d.3099 30ac.30ab.3099 30ae.30ad.3099 30b0.30af.3099
   30b2.30b1.3099 30b4.30b3.3099 30b6.30b5.3099 30b8.30b7.3099 30ba.30b9.3099 30bc.30bb.3099
   30be.30bd.3099 30c0.30bf.3099 30c2.30c1.3099 30c5.30c4.3099 30c7.30c6.3099 30c9.30c8.3099
   30d0.30cf.3099 30d1.30cf.309a 30d3.30d2.3099 30d4.30d2.309a 30d6.30d5.3099 30d7.30d5.309a
   30d9.30d8.3099 30da.30d8.309a 30dc.30db.3099 30dd.30db.309a 30f4.30a6.3099 30f7.30ef.3099
   30f8.30f0.3099 30f9.30f1.3099 30fa.30f2.3099 30fe.30fd.3099 105c9.105d2.307 105e4.105da.307
   1109a.11099.110ba 1109c.1109b.110ba 110ab.110a5.110ba 1112e.11131.11127 1112f.11132.11127
   1134b.11347.1133e 1134c.11347.11357 11383.11382.113c9 11385.11384.113bb 1138e.1138b.113c2
   11391.11390.113c9 113c5.113c2.113c2 113c7.113c2.113b8 113c8.113c2.113c9 114bb.114b9.114ba
   114bc.114b9.114b0 114be.114b9.114bd 115ba.115b8.115af 115bb.115b9.115af 11938.11935.11930
   16121.1611e.1611e 16122.1611e.16129 16123.1611e.1611f 16124.16129.1611f 16125.1611e.16120
   16d68.16d67.16d67 16d69.16d63.16d67"
  ).filterMap Composition.ofWord?

/-! ## Hangul -/

/-- The two that a syllable of Hangul is composed of, by number. -/
def hangulParts? (c : Nat) : Option (Nat × Nat) :=
  if 0xAC00 ≤ c ∧ c < 0xD7A4 then
    let i := c - 0xAC00
    if i % 28 = 0 then some (0x1100 + i / 588, 0x1161 + i % 588 / 28)
    else some (c - i % 28, 0x11A7 + i % 28)
  else none

/-- The syllable of Hangul that is composed of two. -/
def hangul? (a b : Nat) : Option Nat :=
  if 0x1100 ≤ a ∧ a < 0x1113 ∧ 0x1161 ≤ b ∧ b < 0x1176 then
    some (0xAC00 + ((a - 0x1100) * 21 + (b - 0x1161)) * 28)
  else if 0xAC00 ≤ a ∧ a < 0xD7A4 ∧ (a - 0xAC00) % 28 = 0 ∧ 0x11A8 ≤ b ∧ b < 0x11C3 then
    some (a + (b - 0x11A7))
  else none

/-! ## Taking apart -/

/-- Takes a character apart by some compositions. -/
def partsBy : List Composition → Nat → List Nat
  | [], c => [c]
  | p :: ps, c => if c = p.whole then partsBy ps p.first ++ [p.second] else partsBy ps c

/-- Takes a character apart. -/
def parts (c : Char) : List Char :=
  (match hangulParts? c.toNat with
    | some (a, b) =>
      match hangulParts? a with
      | some (x, y) => [x, y, b]
      | none => [a, b]
    | none => partsBy compositions c.toNat).map Char.ofNat

/-! ## Putting the marks in order -/

/-- Puts a character in front of some, behind those marks that come before it. -/
def insertMark (c : Char) : List Char → List Char
  | [] => [c]
  | d :: ds =>
    if combiningClass d ≠ 0 && combiningClass d < combiningClass c then d :: insertMark c ds
    else c :: d :: ds

/-- Puts the marks behind each character in order. -/
def inOrder (cs : List Char) : List Char := cs.foldr insertMark []

/-! ## Putting together -/

/-- The character that is composed of two. -/
def whole? (a b : Char) : Option Char :=
  match hangul? a.toNat b.toNat with
  | some n => some (Char.ofNat n)
  | none =>
    (compositions.find? fun p => p.first = a.toNat && p.second = b.toNat).map
      (Char.ofNat ·.whole)

/-- Puts a character together with what follows; the marks that stay on their own are held, the
last of them first. -/
def joinFrom (base : Char) (held : List Char) : List Char → List Char
  | [] => base :: held.reverse
  | c :: cs =>
    let reached := held.head?.all fun mark => combiningClass mark < combiningClass c
    match if reached then whole? base c else none with
    | some composed => joinFrom composed held cs
    | none =>
      if combiningClass c = 0 then base :: held.reverse ++ joinFrom c [] cs
      else joinFrom base (c :: held) cs

/-- Puts together what can be. -/
def join : List Char → List Char
  | [] => []
  | c :: cs => if combiningClass c = 0 then joinFrom c [] cs else c :: join cs

/-- The normal form C of a text. -/
def compose (cs : List Char) : List Char := join (inOrder (cs.flatMap parts))

end VoiceTicket.Url.Domain
