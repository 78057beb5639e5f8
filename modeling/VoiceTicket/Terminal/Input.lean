/-
  What the user types.

  1. **Data** — an `Input` is what one line asks for.

  2. **Program** — `Input.read` takes a line apart.

  3. **Specification** — blanks around a line do not count.  A line that begins with a colon is a
     command: its name ends at the first blank, and the rest, without the blanks around it, is its
     argument.  Every other line is text for the pipeline.

  4. **Crux** — only `:url` takes an argument, and needs one.  A command that is not known is
     shown to the user as typed; it is never sent anywhere.
-/
import VoiceTicket.Text.Blank

namespace VoiceTicket

/-- What a line asks for. -/
inductive Input where
  | quit
  | setUrl (url : String)
  | showStatus
  | health
  | reset
  | help
  | text (text : String)
  | empty
  | unknown (line : String)
deriving DecidableEq, Repr

namespace Input

/-- The command with a name, if there is one. -/
def command? (name argument : List Char) : Option Input :=
  match String.ofList name with
  | "q" | "quit" | "exit" => some .quit
  | "url" => if argument.isEmpty then none else some (.setUrl (String.ofList argument))
  | "status" => some .showStatus
  | "health" => some .health
  | "reset" => some .reset
  | "h" | "help" => some .help
  | _ => none

/-- What a line asks for that holds no blanks at its ends. -/
def ofTrimmed : List Char → Input
  | [] => .empty
  | ':' :: rest =>
    let name := rest.takeWhile (!Text.isBlank ·)
    let argument := Text.trimChars (rest.dropWhile (!Text.isBlank ·))
    (command? name argument).getD (.unknown (String.ofList (':' :: rest)))
  | cs => .text (String.ofList cs)

/-- What a line asks for. -/
def read (line : String) : Input := ofTrimmed (Text.trimChars line.toList)

example : read ":url" = .unknown ":url" ∧ read ": quit" = .unknown ": quit" := by decide +kernel
example : read "fix : it\n" = .text "fix : it" := by decide +kernel

end Input

end VoiceTicket
