/-
  Writing a JSON text.

  1. **Program** — `Json.render` writes a value on one line without blanks; `Json.renderPretty`
     gives every item a line of its own, two more blanks in for each level.

  2. **Specification** — members are written in the order in which the object holds them.  In
     strings only quotes, backslashes and control characters are escaped, the latter by a short
     form where there is one.  A double has the fewest digits that read back.

  3. **Crux** — the pretty form differs from the compact one in blanks between tokens only; both
     are one recursion over the tree, with the level as the only extra argument.
-/
import VoiceTicket.Json.Parser
import VoiceTicket.Decimal.Shortest

namespace VoiceTicket.Json

/-! ## Strings and numbers -/

/-- A hexadecimal digit in lower case. -/
def hexDigit (n : Nat) : Char := Nat.digitChar n

/-- The written form of one character of a string. -/
def escapeChar (c : Char) : List Char :=
  if c = '"' then ['\\', '"']
  else if c = '\\' then ['\\', '\\']
  else if c = '\n' then ['\\', 'n']
  else if c = '\r' then ['\\', 'r']
  else if c = '\t' then ['\\', 't']
  else if c = '\x08' then ['\\', 'b']
  else if c = '\x0c' then ['\\', 'f']
  else if c < ' ' then
    ['\\', 'u', '0', '0', hexDigit (c.toNat / 16), hexDigit (c.toNat % 16)]
  else [c]

/-- A string in quotes. -/
def quote (s : String) : String :=
  String.ofList ('"' :: s.toList.flatMap escapeChar ++ ['"'])

/-- The text of a number. -/
def numberText : Number → String
  | .int i => toString i
  | .float x => if x.isFinite then Decimal.text .wire x else "null"

/-! ## Values -/

mutual

/-- The value on one line, without blanks. -/
def render : Json → String
  | .null => "null"
  | .bool true => "true"
  | .bool false => "false"
  | .num n => numberText n
  | .str s => quote s
  | .arr xs => "[" ++ renderItems xs ++ "]"
  | .obj ms => "\x7b" ++ renderMembers ms ++ "\x7d"

/-- Items with commas between them. -/
def renderItems : List Json → String
  | [] => ""
  | [x] => render x
  | x :: xs => render x ++ "," ++ renderItems xs

/-- Members with commas between them. -/
def renderMembers : List (String × Json) → String
  | [] => ""
  | [(k, v)] => quote k ++ ":" ++ render v
  | (k, v) :: ms => quote k ++ ":" ++ render v ++ "," ++ renderMembers ms

end

/-- A line break and the blanks in front of an item of some level. -/
def lineBreak (level : Nat) : String :=
  String.ofList ('\n' :: List.replicate (2 * level) ' ')

mutual

/-- The value with a line for each item, as part of a line of some level. -/
def renderPrettyAt (level : Nat) : Json → String
  | .null => "null"
  | .bool true => "true"
  | .bool false => "false"
  | .num n => numberText n
  | .str s => quote s
  | .arr [] => "[]"
  | .obj [] => "\x7b\x7d"
  | .arr xs => "[" ++ renderPrettyItems (level + 1) xs ++ lineBreak level ++ "]"
  | .obj ms => "\x7b" ++ renderPrettyMembers (level + 1) ms ++ lineBreak level ++ "\x7d"

/-- Items on lines of their own. -/
def renderPrettyItems (level : Nat) : List Json → String
  | [] => ""
  | [x] => lineBreak level ++ renderPrettyAt level x
  | x :: xs => lineBreak level ++ renderPrettyAt level x ++ "," ++ renderPrettyItems level xs

/-- Members on lines of their own. -/
def renderPrettyMembers (level : Nat) : List (String × Json) → String
  | [] => ""
  | [(k, v)] => lineBreak level ++ quote k ++ ": " ++ renderPrettyAt level v
  | (k, v) :: ms =>
    lineBreak level ++ quote k ++ ": " ++ renderPrettyAt level v ++ ","
      ++ renderPrettyMembers level ms

end

/-- The value with a line for each item, two blanks in for each level. -/
def renderPretty (v : Json) : String := renderPrettyAt 0 v

example : (Json.obj [("a", .arr [ofNat 1, .bool true]), ("b", .str "\n\x01\"")]).render =
    "\x7b\"a\":[1,true],\"b\":\"\\n\\u0001\\\"\"\x7d" := by decide +kernel
example : (Json.obj [("a", .arr [ofNat 1])]).renderPretty =
    "\x7b\n  \"a\": [\n    1\n  ]\n\x7d" := by decide +kernel

end VoiceTicket.Json
