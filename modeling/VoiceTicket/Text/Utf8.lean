/-
  Text out of bytes: UTF-8, strictly and leniently.

  Settings files, standard input and binary frames arrive as bytes.  The first two must be proper
  UTF-8 or they are refused; a frame is read all the same, with U+FFFD in the place of what is no
  character.

  1. **Program** — `pieces` walks the bytes once.  It holds at most one unfinished character
     (`Unfinished`: the bits so far, how many bytes are still owed, and which bytes the next one
     may be) and reports each finished character as `some c` and each run that can no longer
     become one as `none`.

  2. **Specification** — the well-formed sequences of the Unicode standard: no overlong forms, no
     surrogates, nothing above U+10FFFF.  That is all in the range of the byte after the lead
     (`start`), so no value has to be checked at the end.

  3. **Crux** — one `none` per maximal invalid run: a byte that does not continue the unfinished
     character ends it and is then looked at afresh as a lead.  `decode?` accepts exactly what has
     no such run.
-/

namespace VoiceTicket.Text.Utf8

/-! ## The machine -/

/-- A character of which some bytes are still owed; the next one lies between `lo` and `hi`. -/
structure Unfinished where
  value : Nat
  owed : Nat
  lo : UInt8
  hi : UInt8

/-- What a byte that stands at the start of a character makes of it. -/
inductive Lead where
  | ascii (c : Char)
  | opens (u : Unfinished)
  | invalid

/-- The first byte of a character says how many follow, and bounds the first of these. -/
def start (b : UInt8) : Lead :=
  if b < 0x80 then .ascii (Char.ofNat b.toNat)
  else if b < 0xC2 then .invalid
  else if b < 0xE0 then .opens ⟨b.toNat - 0xC0, 1, 0x80, 0xBF⟩
  else if b == 0xE0 then .opens ⟨0, 2, 0xA0, 0xBF⟩
  else if b == 0xED then .opens ⟨0xD, 2, 0x80, 0x9F⟩
  else if b < 0xF0 then .opens ⟨b.toNat - 0xE0, 2, 0x80, 0xBF⟩
  else if b == 0xF0 then .opens ⟨0, 3, 0x90, 0xBF⟩
  else if b < 0xF4 then .opens ⟨b.toNat - 0xF0, 3, 0x80, 0xBF⟩
  else if b == 0xF4 then .opens ⟨4, 3, 0x80, 0x8F⟩
  else .invalid

/-- Reads a byte as a lead: what it finishes at once, and what it leaves open. -/
def fresh (b : UInt8) : List (Option Char) × Option Unfinished :=
  match start b with
  | .ascii c => ([some c], none)
  | .opens u => ([], some u)
  | .invalid => ([none], none)

/-- Reads one byte after an unfinished character, if there is one. -/
def step (state : Option Unfinished) (b : UInt8) : List (Option Char) × Option Unfinished :=
  match state with
  | none => fresh b
  | some u =>
    if u.lo ≤ b && b ≤ u.hi then
      let value := u.value * 64 + b.toNat % 64
      if u.owed ≤ 1 then ([some (Char.ofNat value)], none)
      else ([], some ⟨value, u.owed - 1, 0x80, 0xBF⟩)
    else
      let (out, next) := fresh b
      (none :: out, next)

/-- The characters of a byte list in order, `none` for each maximal run that is none. -/
def pieces (state : Option Unfinished) : List UInt8 → List (Option Char)
  | [] => if state.isSome then [none] else []
  | b :: bs => (step state b).1 ++ pieces (step state b).2 bs

/-! ## The two readings -/

/-- The text, if every byte belongs to a well-formed character. -/
def decode? (bytes : List UInt8) : Option String :=
  ((pieces none bytes).mapM id).map String.ofList

/-- The text with U+FFFD in the place of each maximal invalid run. -/
def decodeLossy (bytes : List UInt8) : String :=
  String.ofList ((pieces none bytes).map (·.getD '\ufffd'))

/-- The bytes of a text. -/
def encode (s : String) : List UInt8 :=
  s.toList.flatMap String.utf8EncodeChar

example : decode? [0xED, 0xA0, 0x80] = none := by decide
example : decodeLossy [0x61, 0xF0, 0x9F, 0x62, 0xFF] = "a\ufffdb\ufffd" := by decide

end VoiceTicket.Text.Utf8
