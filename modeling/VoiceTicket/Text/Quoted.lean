/-
  A text in quotes, for messages.

  1. **Program** — `Text.quoted s` puts a text between double quotes and escapes what would not
     show: quotes and backslashes, the common control characters by a letter, everything else
     without a glyph by its code point.

  2. **Specification** — between the quotes stands the text character by character
     (`quotedChar`); a character that shows as itself stands for itself.
-/
import VoiceTicket.Text.Unprintable

namespace VoiceTicket.Text

/-- A code point in lower case hexadecimal, without leading zeros. -/
def hexText (n : Nat) : List Char := Nat.toDigits 16 n

/-- The form of one character between quotes. -/
def quotedChar (c : Char) : List Char :=
  if c = '\x00' then ['\\', '0']
  else if c = '\t' then ['\\', 't']
  else if c = '\r' then ['\\', 'r']
  else if c = '\n' then ['\\', 'n']
  else if c = '\\' then ['\\', '\\']
  else if c = '"' then ['\\', '"']
  else if isPrintable c then [c]
  else ['\\', 'u', '\x7b'] ++ hexText c.toNat ++ ['\x7d']

/-- A text between double quotes. -/
def quoted (s : String) : String :=
  String.ofList ('"' :: s.toList.flatMap quotedChar ++ ['"'])

example : quoted "a\"b\\c\n" = "\"a\\\"b\\\\c\\n\"" := by decide +kernel
example : quoted "\u200b" = "\"\\u\x7b200b\x7d\"" := by decide +kernel

end VoiceTicket.Text
