/-
  Ids for jobs.

  1. **Program** — `jobId` writes an id out of sixteen random bytes.

  2. **Specification** — a UUID of version 4: 32 hexadecimal digits in groups of 8, 4, 4, 4 and 12,
     of which the bits for version and variant are fixed.
-/

namespace VoiceTicket

/-- A hexadecimal digit. -/
def hexDigit (n : Nat) : Char :=
  if n < 10 then Char.ofNat ('0'.toNat + n) else Char.ofNat ('a'.toNat + (n - 10))

/-- The digits of some bytes. -/
def hexText (bytes : List UInt8) : String :=
  String.ofList (bytes.flatMap fun b => [hexDigit (b.toNat / 16), hexDigit (b.toNat % 16)])

/-- Sixteen bytes with the bits for version and variant in place. -/
def withVersion (bytes : List UInt8) : List UInt8 :=
  (bytes.modify 6 fun b => b % 16 + 0x40).modify 8 fun b => b % 64 + 0x80

/-- The id that sixteen bytes give. -/
def jobId (bytes : List UInt8) : String :=
  let bytes := withVersion bytes
  let group (start count : Nat) := hexText ((bytes.drop start).take count)
  String.intercalate "-" [group 0 4, group 4 2, group 6 2, group 8 2, group 10 6]

example : jobId (List.replicate 16 0xFF) = "ffffffff-ffff-4fff-bfff-ffffffffffff" := by
  decide +kernel

end VoiceTicket
