/-
  Typed readings of JSON values.

  Bodies, settings and frames are records with a few known fields.  A typed reading takes the
  fields it knows out of a value and says what it expected where it finds something else.

  1. **Program** — a `Decoder α` reads an `α` out of a value or reports a `Mismatch`.  Records are
     read with `present`, one known field after the other, and completed with `require`.

  2. **Specification** — fields are looked at in the order of their keys, so of several faulty
     fields the first in that order is reported; a field that is missing is reported only when
     all that are present can be read.  Fields that are not known are never looked at.

  3. **Crux** — absence is not `null`: a field that may be absent is `present`, one that may also
     be `null` is read with `nullable`, and the two are independent.
-/
import VoiceTicket.Json.Printer
import VoiceTicket.Text.Quoted

namespace VoiceTicket

/-! ## Readings that succeed -/

theorem except_bind_eq_ok {ε α β : Type} {x : Except ε α} {f : α → Except ε β} {b : β} :
    (x >>= f) = .ok b ↔ ∃ a, x = .ok a ∧ f a = .ok b := by
  cases x with
  | error fault =>
    constructor
    · intro h
      cases h
    · rintro ⟨_, h, _⟩
      cases h
  | ok a =>
    constructor
    · intro h
      exact ⟨a, rfl, h⟩
    · rintro ⟨_, h, more⟩
      cases h
      exact more

theorem toOption_eq_some {ε α : Type} {x : Except ε α} {a : α} :
    x.toOption = some a ↔ x = .ok a := by
  cases x <;> simp [Except.toOption]

theorem mapError_eq_ok {ε ε' α : Type} {x : Except ε α} {f : ε → ε'} {a : α} :
    x.mapError f = .ok a ↔ x = .ok a := by
  cases x with
  | error fault =>
    constructor
    · intro h
      cases h
    · intro h
      cases h
  | ok b =>
    constructor
    · intro h
      cases h
      rfl
    · intro h
      cases h
      rfl

namespace Json

/-! ## Mismatches -/

/-- What was found, as far as a message tells. -/
inductive Found where
  | null
  | bool (value : Bool)
  | number (value : Number)
  | text (value : String)
  | sequence
  | map
deriving DecidableEq, Repr

/-- What was expected. -/
inductive Expected where
  | text
  | boolean
  | unsigned (bits : Nat)
  | sequence
  | record (name : String)
  | variant
  | singleKey
  | nothing
deriving DecidableEq, Repr

/-- Why a value is not of the expected type. -/
inductive Mismatch where
  | type (found : Found) (expected : Expected)
  | value (found : Found) (expected : Expected)
  | missingField (name : String)
  | unknownVariant (name : String) (known : List String)
  | tooShort (length : Nat) (record : String) (fields : Nat)
  | tooLong (length : Nat)
deriving DecidableEq, Repr

/-- What a value is, for a message. -/
def found : Json → Found
  | .null => .null
  | .bool b => .bool b
  | .num n => .number n
  | .str s => .text s
  | .arr _ => .sequence
  | .obj _ => .map

/-- A text between back quotes. -/
def backQuoted (s : String) : String := "\x60" ++ s ++ "\x60"

/-- How a message names what was found. -/
def Found.describe : Found → String
  | .null => "null"
  | .bool true => "boolean " ++ backQuoted "true"
  | .bool false => "boolean " ++ backQuoted "false"
  | .number (.int i) => "integer " ++ backQuoted (toString i)
  | .number (.float x) => "floating point " ++ backQuoted (Decimal.text .wire x)
  | .text s => "string " ++ Text.quoted s
  | .sequence => "sequence"
  | .map => "map"

/-- How a message names what was expected. -/
def Expected.describe : Expected → String
  | .text => "a string"
  | .boolean => "a boolean"
  | .unsigned bits => "u" ++ toString bits
  | .sequence => "a sequence"
  | .record name => "struct " ++ name
  | .variant => "string or map"
  | .singleKey => "map with a single key"
  | .nothing => "unit"

/-- The text of a mismatch. -/
def Mismatch.message : Mismatch → String
  | .type found expected => "invalid type: " ++ found.describe ++ ", expected " ++ expected.describe
  | .value found expected =>
    "invalid value: " ++ found.describe ++ ", expected " ++ expected.describe
  | .missingField name => "missing field " ++ backQuoted name
  | .unknownVariant name known =>
    "unknown variant " ++ backQuoted name ++ ", expected one of "
      ++ String.intercalate ", " (known.map backQuoted)
  | .tooShort length record fields =>
    "invalid length " ++ toString length ++ ", expected struct " ++ record ++ " with "
      ++ toString fields ++ " elements"
  | .tooLong length =>
    "invalid length " ++ toString length ++ ", expected fewer elements in array"

/-! ## Leaves -/

/-- Reads an `α` out of a value. -/
abbrev Decoder (α : Type) := Json → Except Mismatch α

namespace Decoder

/-- A text. -/
def text : Decoder String
  | .str s => .ok s
  | v => .error (.type v.found .text)

/-- A truth value. -/
def boolean : Decoder Bool
  | .bool b => .ok b
  | v => .error (.type v.found .boolean)

/-- An integer from zero up to what some bits can hold. -/
def unsigned (bits : Nat) : Decoder Nat
  | .num (.int i) =>
    if 0 ≤ i ∧ i.toNat < Nat.pow 2 bits then .ok i.toNat
    else .error (.value (.number (.int i)) (.unsigned bits))
  | v => .error (.type v.found (.unsigned bits))

/-- A list of values that are all read alike. -/
def list {α : Type} (item : Decoder α) : Decoder (List α)
  | .arr xs => xs.mapM item
  | v => .error (.type v.found .sequence)

/-- A value or `null`. -/
def nullable {α : Type} (inner : Decoder α) : Decoder (Option α)
  | .null => .ok none
  | v => (inner v).map some

/-- The name of one of some variants, which carry no data. -/
def variant (known : List String) : Decoder String
  | .str name => check name
  | .obj [(name, v)] => do
    let name ← check name
    if v = .null then .ok name else .error (.type v.found .nothing)
  | .obj _ => .error (.value .map .singleKey)
  | v => .error (.type v.found .variant)
where
  /-- Accepts a known name. -/
  check (name : String) : Except Mismatch String :=
    if name ∈ known then .ok name else .error (.unknownVariant name known)

/-! ## Fields of a record -/

/-- The field under a key, if the object has one. -/
def present {α : Type} (key : String) (inner : Decoder α) (value : Json) :
    Except Mismatch (Option α) :=
  match value.field? key with
  | some v => (inner v).map some
  | none => .ok none

/-- A field that the record cannot do without. -/
def require {α : Type} (key : String) : Option α → Except Mismatch α
  | some a => .ok a
  | none => .error (.missingField key)

theorem present_of_none {α : Type} {key : String} {inner : Decoder α} {value : Json}
    (h : value.field? key = none) : present key inner value = .ok none := by
  simp [present, h]

theorem present_of_some {α : Type} {key : String} {inner : Decoder α} {value v : Json}
    (h : value.field? key = some v) : present key inner value = (inner v).map some := by
  simp [present, h]

end Decoder

example : (Mismatch.type (.number (.int 5)) .text).message =
    "invalid type: integer \x605\x60, expected a string" := by decide +kernel
example : (Mismatch.unknownVariant "x" ["a", "b"]).message =
    "unknown variant \x60x\x60, expected one of \x60a\x60, \x60b\x60" := by decide +kernel

end Json

end VoiceTicket
