/-
  Reading a JSON text.

  1. **Program** — a `Reader` takes a value off the front of a text and returns the rest.
     `Json.parse?` reads one value and expects nothing but blanks around it.

  2. **Specification** — the JSON grammar, strictly: four blanks, no bare control characters in
     strings, escaped surrogates only in pairs, at most 127 arrays and objects inside one another,
     no number that is too large for a double.  Of members with the same key the last one counts.

  3. **Crux** — the recursion is on the nesting that is still allowed (`value`), and inside an
     array or object on a bound for the number of its items (`items`), which the length of the
     text supplies: an item is never empty.
-/
import VoiceTicket.Json.Numeral

namespace VoiceTicket.Json

/-- Takes a value off the front of a text. -/
abbrev Reader (α : Type) := List Char → Option (α × List Char)

namespace Reader

/-! ## Strings -/

/-- The four blanks of the format. -/
def isSpace (c : Char) : Bool :=
  c == ' ' || c == '\n' || c == '\t' || c == '\r'

/-- The text without the blanks at its front. -/
def skipSpace (cs : List Char) : List Char := cs.dropWhile isSpace

/-- The value of a hexadecimal digit. -/
def hexDigit? (c : Char) : Option Nat :=
  if '0' ≤ c ∧ c ≤ '9' then some (c.toNat - '0'.toNat)
  else if 'a' ≤ c ∧ c ≤ 'f' then some (c.toNat - 'a'.toNat + 10)
  else if 'A' ≤ c ∧ c ≤ 'F' then some (c.toNat - 'A'.toNat + 10)
  else none

/-- The value of four hexadecimal digits. -/
def hex4 (a b c d : Char) : Option Nat := do
  return (((← hexDigit? a) * 16 + (← hexDigit? b)) * 16 + (← hexDigit? c)) * 16 + (← hexDigit? d)

/-- What a backslash in front of a character other than `u` stands for. -/
def shortEscape? : Char → Option Char
  | '"' => some '"'
  | '\\' => some '\\'
  | '/' => some '/'
  | 'b' => some '\x08'
  | 'f' => some '\x0c'
  | 'n' => some '\n'
  | 'r' => some '\r'
  | 't' => some '\t'
  | _ => none

/-- A code unit that opens a surrogate pair. -/
def isHighSurrogate (n : Nat) : Bool := 0xD800 ≤ n && n ≤ 0xDBFF

/-- A code unit that closes a surrogate pair. -/
def isLowSurrogate (n : Nat) : Bool := 0xDC00 ≤ n && n ≤ 0xDFFF

/-- The character that a surrogate pair stands for. -/
def ofSurrogates (high low : Nat) : Char :=
  Char.ofNat (0x10000 + (high - 0xD800) * 0x400 + (low - 0xDC00))

/-- Puts a character in front of what a reader found. -/
def push (c : Char) (found : Option (List Char × List Char)) : Option (List Char × List Char) :=
  found.map fun (cs, rest) => (c :: cs, rest)

/-- The characters of a string up to its closing quote. -/
def chars : Reader (List Char)
  | [] => none
  | '"' :: rest => some ([], rest)
  | '\\' :: 'u' :: a :: b :: c :: d :: rest =>
    match hex4 a b c d with
    | none => none
    | some n =>
      if isLowSurrogate n then none
      else if isHighSurrogate n then
        match rest with
        | '\\' :: 'u' :: e :: f :: g :: h :: rest =>
          match hex4 e f g h with
          | some m => if isLowSurrogate m then push (ofSurrogates n m) (chars rest) else none
          | none => none
        | _ => none
      else push (Char.ofNat n) (chars rest)
  | '\\' :: c :: rest =>
    match shortEscape? c with
    | some e => push e (chars rest)
    | none => none
  | c :: rest => if c < ' ' || c == '\\' then none else push c (chars rest)

/-! ## Arrays and objects -/

/-- One or more items with commas between them, up to the closing bracket; `bound` is at least
their number. -/
def items {α : Type} (item : Reader α) (close : Char) : (bound : Nat) → Reader (List α)
  | 0, _ => none
  | bound + 1, cs => do
    let (x, cs) ← item (skipSpace cs)
    match skipSpace cs with
    | [] => none
    | c :: cs =>
      if c = ',' then
        let (xs, cs) ← items item close bound cs
        some (x :: xs, cs)
      else if c = close then some ([x], cs)
      else none

/-- The items of an array or object whose opening bracket has been read. -/
def group {α : Type} (item : Reader α) (close : Char) (cs : List Char) :
    Option (List α × List Char) :=
  match skipSpace cs with
  | [] => none
  | c :: cs => if c = close then some ([], cs) else items item close cs.length (c :: cs)

/-- A string with its quotes. -/
def string : Reader String
  | '"' :: cs => (chars cs).map fun (s, rest) => (String.ofList s, rest)
  | _ => none

/-- A colon, with blanks around it. -/
def colon (cs : List Char) : Option (List Char) :=
  match skipSpace cs with
  | ':' :: cs => some (skipSpace cs)
  | _ => none

/-- A key, a colon and a value. -/
def member {κ α : Type} (key : Reader κ) (value : Reader α) : Reader (κ × α) := fun cs => do
  let (k, cs) ← key cs
  let (v, cs) ← value (← colon cs)
  some ((k, v), cs)

/-! ## Values -/

/-- A value that is neither an array nor an object. -/
def scalar : Reader Json
  | '"' :: cs => (string ('"' :: cs)).map fun (s, rest) => (.str s, rest)
  | 'n' :: 'u' :: 'l' :: 'l' :: cs => some (.null, cs)
  | 't' :: 'r' :: 'u' :: 'e' :: cs => some (.bool true, cs)
  | 'f' :: 'a' :: 'l' :: 's' :: 'e' :: cs => some (.bool false, cs)
  | cs => do
    let (numeral, rest) ← Numeral.scan cs
    some (.num (← numeral.value), rest)

/-- A value with at most `nesting` arrays and objects inside one another. -/
def value : (nesting : Nat) → Reader Json
  | 0, cs => scalar cs
  | nesting + 1, cs =>
    match cs with
    | '[' :: cs => (group (value nesting) ']' cs).map fun (xs, rest) => (.arr xs, rest)
    | '{' :: cs => (group (member string (value nesting)) '}' cs).map fun (ms, rest) =>
        (ofMembers ms, rest)
    | cs => scalar cs

end Reader

/-- How many arrays and objects may stand inside one another. -/
def maxNesting : Nat := 127

/-- The value that a text spells. -/
def parse? (s : String) : Option Json :=
  match Reader.value maxNesting (Reader.skipSpace s.toList) with
  | some (v, rest) => if (Reader.skipSpace rest).isEmpty then some v else none
  | none => none

example : parse? " \x7b\"b\":[1,-2.5e0],\"a\":null\x7d " =
    some (.obj
      [("a", .null), ("b", .arr [.num (.int 1), .num (.float ⟨0xC004000000000000⟩)])]) := by
  decide +kernel
example : parse? "\"\\ud83d\"" = none ∧ parse? "[1,]" = none ∧ parse? "1 2" = none := by
  decide +kernel

end VoiceTicket.Json
