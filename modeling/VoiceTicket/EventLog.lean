/-
  The event log: what happened, in words, for the user.

  1. **Data** — an `EventLog` is the list of its entries, oldest first.  The order is the order in
     time; nothing else of the time is kept.

  2. **Specification** — entries are only ever appended.  The log covers one run of the program,
     so that none is dropped either.
-/
import VoiceTicket.Json.Basic

namespace VoiceTicket

/-- How serious an entry is. -/
inductive Level where
  | debug
  | info
  | warn
  | error
deriving DecidableEq, Repr, Inhabited

namespace Level

/-- Every level, the least serious first. -/
def all : List Level := [debug, info, warn, error]

/-- The name of a level. -/
def name : Level → String
  | debug => "debug"
  | info => "info"
  | warn => "warn"
  | error => "error"

/-- The level with a name. -/
def ofName? (name : String) : Option Level := all.find? (·.name == name)

theorem ofName?_name (l : Level) : ofName? l.name = some l := by cases l <;> decide

end Level

/-- One thing that happened. -/
structure LogEntry where
  level : Level
  message : String
  details : Option String
deriving DecidableEq, Repr

/-- What happened so far, oldest first. -/
structure EventLog where
  entries : List LogEntry
deriving DecidableEq, Repr, Inhabited

namespace EventLog

/-- Nothing has happened. -/
def empty : EventLog := ⟨[]⟩

/-- Appends an entry. -/
def record (log : EventLog) (level : Level) (message : String)
    (details : Option String) : EventLog :=
  ⟨log.entries ++ [⟨level, message, details⟩]⟩

/-- Appends an entry without details. -/
def note (log : EventLog) (level : Level) (message : String) : EventLog :=
  log.record level message none

/-- How many entries there are. -/
def size (log : EventLog) : Nat := log.entries.length

/-- Whether there are none. -/
def isEmpty (log : EventLog) : Bool := log.entries.isEmpty

/-- The latest entry. -/
def last? (log : EventLog) : Option LogEntry := log.entries.getLast?

end EventLog

end VoiceTicket
