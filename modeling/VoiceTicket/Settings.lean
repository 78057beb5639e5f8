/-
  Settings: what the client is told about the server.

  1. **Data** — `Settings` are the values themselves.

  2. **Program** — `Settings.ofText` reads the text of a settings file; `Settings.text` writes one.

  3. **Specification** — a value that the file does not have, or has as `null`, is the default, and
     the file is then to be written anew.  So is a file whose text is JSON but no object, as if it
     were empty.  A value of a wrong type is an error.  Keys that are not known are not kept.

  4. **Crux** — `seed` fills the missing values in before anything is typed, so that the types are
     judged on a complete object: what is missing is never reported.
-/
import VoiceTicket.Json.Decode
import VoiceTicket.Reconnect.Policy
import VoiceTicket.Text.Blank

namespace VoiceTicket

/-- How long to wait before connecting again, in milliseconds. -/
structure RetrySettings where
  base : Nat
  cap : Nat
  jitter : Nat
deriving DecidableEq, Repr

/-- What the client is told about the server. -/
structure Settings where
  serverUrl : String
  retry : RetrySettings
  timeoutSeconds : Nat
deriving DecidableEq, Repr

namespace RetrySettings

/-- One second, doubled up to half a minute, and up to half a second more. -/
def standard : RetrySettings := ⟨1000, 30000, 500⟩

/-- The policy with these delays.  No delay at all would keep the server busy with attempts, so
that the base is at least a millisecond; the cap is at least the base. -/
def policy (r : RetrySettings) : Policy :=
  let base := Duration.ofMillis (max r.base 1)
  ⟨base, (Duration.ofMillis r.cap).longer base, .ofMillis r.jitter⟩

/-- The settings as a value. -/
def toJson (r : RetrySettings) : Json :=
  .obj [("base_ms", .ofNat r.base), ("cap_ms", .ofNat r.cap), ("jitter_ms", .ofNat r.jitter)]

/-- The values that stand in for the ones that are missing. -/
def defaults : List (String × Json) :=
  [("base_ms", .ofNat standard.base), ("cap_ms", .ofNat standard.cap),
    ("jitter_ms", .ofNat standard.jitter)]

/-- Reads the settings from their fields. -/
def decodeFields : Json.Decoder RetrySettings := fun v => do
  let base ← Json.Decoder.present "base_ms" (.unsigned 64) v
  let cap ← Json.Decoder.present "cap_ms" (.unsigned 64) v
  let jitter ← Json.Decoder.present "jitter_ms" (.unsigned 64) v
  return ⟨← Json.Decoder.require "base_ms" base, ← Json.Decoder.require "cap_ms" cap,
    ← Json.Decoder.require "jitter_ms" jitter⟩

/-- Reads the settings from their values in order. -/
def decodeList (items : List Json) : Except Json.Mismatch RetrySettings := do
  let numbers ← (items.take 3).mapM (Json.Decoder.unsigned 64)
  match numbers with
  | [base, cap, jitter] =>
    if items.length ≤ 3 then return ⟨base, cap, jitter⟩ else throw (.tooLong items.length)
  | short => throw (.tooShort short.length "ReconnectSettings" 3)

/-- Reads the settings, written as an object or as a list. -/
def decode : Json.Decoder RetrySettings
  | .obj members => decodeFields (.obj members)
  | .arr items => decodeList items
  | v => .error (.type v.found (.record "ReconnectSettings"))

end RetrySettings

namespace Settings

/-- A server on the same machine, and time enough for slow hardware. -/
def standard : Settings := ⟨"http://localhost:8000", .standard, 120⟩

instance : Inhabited Settings := ⟨standard⟩

/-- How long a call may take: a second at least. -/
def timeout (s : Settings) : Duration := .ofSeconds (max s.timeoutSeconds 1)

/-- The settings as a value. -/
def toJson (s : Settings) : Json :=
  .obj [("server_url", .str s.serverUrl), ("reconnect", s.retry.toJson),
    ("request_timeout_secs", .ofNat s.timeoutSeconds)]

/-- The values that stand in for the ones that are missing; the delays are filled in later. -/
def defaults : List (String × Json) :=
  [("server_url", .str standard.serverUrl), ("reconnect", .obj []),
    ("request_timeout_secs", .ofNat standard.timeoutSeconds)]

/-- The text of a settings file. -/
def text (s : Settings) : String := s.toJson.renderPretty

/-- Reads the settings from their fields. -/
def decode : Json.Decoder Settings := fun v => do
  let retry ← Json.Decoder.present "reconnect" RetrySettings.decode v
  let timeout ← Json.Decoder.present "request_timeout_secs" (.unsigned 64) v
  let url ← Json.Decoder.present "server_url" .text v
  return ⟨← Json.Decoder.require "server_url" url, ← Json.Decoder.require "reconnect" retry,
    ← Json.Decoder.require "request_timeout_secs" timeout⟩

/-! ## Missing values -/

/-- Members of an object, and whether any of them was missing. -/
abbrev Seeded := List (String × Json) × Bool

/-- Fills a value in where it is missing or `null`. -/
def seedValue (key : String) (value : Json) (seeded : Seeded) : Seeded :=
  match Json.find? key seeded.1 with
  | none | some .null => (Json.insert key value seeded.1, true)
  | some _ => seeded

/-- Fills some values in where they are missing. -/
def seedAll (values members : List (String × Json)) : Seeded :=
  values.foldl (fun seeded m => seedValue m.1 m.2 seeded) (members, false)

/-- Fills all values in where they are missing. -/
def seed (members : List (String × Json)) : Seeded :=
  let (members, missing) := seedAll defaults members
  match Json.find? "reconnect" members with
  | some (.obj retry) =>
    let (retry, missing') := seedAll RetrySettings.defaults retry
    (Json.insert "reconnect" (.obj retry) members, missing || missing')
  | _ => (members, missing)

/-- What is wrong with the text of a settings file. -/
inductive TextFault where
  | malformed
  | mismatch (m : Json.Mismatch)
deriving DecidableEq, Repr

/-- The value that the text of a settings file spells; a blank one spells an empty object. -/
def value? (text : String) : Option Json :=
  if Text.isBlankText text then some (.obj []) else Json.parse? text

/-- The members that a value contributes, and whether it is no object at all. -/
def membersOf : Json → Seeded
  | .obj members => (members, false)
  | _ => ([], true)

/-- The settings in the text of a settings file, and whether the file is to be written anew. -/
def ofText (text : String) : Except TextFault (Settings × Bool) :=
  match value? text with
  | none => .error .malformed
  | some v =>
    let (members, replaced) := membersOf v
    let (members, missing) := seed members
    match decode (.obj members) with
    | .error m => .error (.mismatch m)
    | .ok settings => .ok (settings, replaced || missing)

example : (ofText "\x7b\"reconnect\":\x7b\"cap_ms\":5\x7d\x7d").toOption =
    some (⟨"http://localhost:8000", ⟨1000, 5, 500⟩, 120⟩, true) := by decide +kernel
example : (ofText standard.text).toOption = some (standard, false) := by decide +kernel

end Settings

end VoiceTicket
