/-
  The settings file, and the settings in use.

  1. **Data** — a `Place` is what stands where the settings file is to be.  A `Config` is the
     settings in use: the ones that are stored, and a server URL that overrides them for one run.

  2. **Program** — `Config.loading` reads a place, `Config.save` writes it, `Config.setServerUrl`
     edits the server URL, `Config.withOverride` sets it for this run.

  3. **Specification** — a file that does not exist is created with the defaults, together with
     its folder.  A file that cannot be read, or not as settings, is left as it is.  An edit is in
     effect at once and then saved; it replaces an override.

  4. **Crux** — loading and saving are functions from the place to the place after, so that what is
     left on the disk after a failure is part of the answer.
-/
import VoiceTicket.Channel
import VoiceTicket.Settings

namespace VoiceTicket

/-- What stands where the settings file is to be. -/
inductive Place where
  /-- Not even the folder exists. -/
  | nothing
  /-- The folder exists, and the file does not. -/
  | folder
  | file (bytes : List UInt8)
  /-- A directory stands in the place of the file. -/
  | directory
  /-- A file stands in the place of the folder. -/
  | blocked
deriving DecidableEq, Repr

/-- What the system says when a file cannot be used. -/
inductive DiskFault where
  | isDirectory
  | notDirectory
  | exists
  | notText
deriving DecidableEq, Repr

/-- The text of what the system says. -/
def DiskFault.message : DiskFault → String
  | .isDirectory => "Is a directory (os error 21)"
  | .notDirectory => "Not a directory (os error 20)"
  | .exists => "File exists (os error 17)"
  | .notText => "stream did not contain valid UTF-8"

namespace Place

/-- The text of the file; nothing if it does not exist. -/
def read : Place → Except DiskFault (Option String)
  | .nothing | .folder => .ok none
  | .file bytes =>
    match Text.Utf8.decode? bytes with
    | some text => .ok (some text)
    | none => .error .notText
  | .directory => .error .isDirectory
  | .blocked => .error .notDirectory

/-- Writes the file, creating its folder if need be. -/
def write (text : String) : Place → Except DiskFault Place
  | .nothing | .folder | .file _ => .ok (.file (Text.Utf8.encode text))
  | .directory => .error .isDirectory
  | .blocked => .error .exists

/-- What the file holds, leniently; nothing where there is no file. -/
def contents? : Place → Option String
  | .file bytes => some (Text.Utf8.decodeLossy bytes)
  | _ => none

end Place

/-- Why settings cannot be loaded, saved or edited. -/
inductive Settings.Fault where
  | disk (fault : DiskFault)
  | malformed
  | mismatch (m : Json.Mismatch)
  | noFolder
  | invalidUrl (fault : Channel.Fault)
deriving DecidableEq, Repr

/-- The text of a fault. -/
def Settings.Fault.message : Settings.Fault → String
  | .disk fault => "Settings I/O error: " ++ fault.message
  | .malformed => "Settings file is not valid JSON"
  | .mismatch m => "Settings file is not valid JSON: " ++ m.message
  | .noFolder => "No configuration directory on this platform"
  | .invalidUrl fault => "Invalid server URL: " ++ fault.message

/-- The settings in use: those that are stored, perhaps on disk, and a server URL for this run. -/
structure Config where
  stored : Settings
  runUrl : Option String
  onDisk : Bool
deriving DecidableEq, Repr

namespace Config

/-- Settings that are never written. -/
def inMemory (s : Settings) : Config := ⟨s, none, false⟩

/-- The server URL in effect. -/
def serverUrl (c : Config) : String := c.runUrl.getD c.stored.serverUrl

/-- The settings in effect. -/
def current (c : Config) : Settings := { c.stored with serverUrl := c.serverUrl }

/-- The policy in effect. -/
def policy (c : Config) : Policy := c.stored.retry.policy

/-- Writes the stored settings to their place, if they have one. -/
def save (c : Config) (place : Place) : Except Settings.Fault Place :=
  if c.onDisk then (place.write c.stored.text).mapError .disk else .ok place

/-- The text at a place as settings, and whether it is to be written anew. -/
def readPlace (place : Place) : Except Settings.Fault (Settings × Bool) := do
  let text ← place.read.mapError .disk
  match Settings.ofText (text.getD "") with
  | .ok found => return found
  | .error .malformed => throw .malformed
  | .error (.mismatch m) => throw (.mismatch m)

/-- Loads the settings at a place, writing what they lacked, and says what stands there after it,
whether or not that succeeds. -/
def loading (place : Place) : Except Settings.Fault Config × Place :=
  match readPlace place with
  | .error fault => (.error fault, place)
  | .ok (settings, stale) =>
    let c : Config := ⟨settings, none, true⟩
    if stale then
      match c.save place with
      | .ok place' => (.ok c, place')
      | .error fault => (.error fault, place)
    else (.ok c, place)

/-- The settings at a place and the place after loading them, if that succeeds. -/
def load (place : Place) : Except Settings.Fault (Config × Place) :=
  match loading place with
  | (.ok c, place') => .ok (c, place')
  | (.error fault, _) => .error fault

/-- Uses a server URL until the user edits it; a blank or invalid one is ignored. -/
def withOverride (c : Config) : Option String → Config
  | none => c
  | some raw =>
    if Text.isBlankText raw then c
    else match Channel.serverUrl raw with
      | .ok url => { c with runUrl := some url }
      | .error _ => c

/-- The settings in use once an edit of the server URL is in effect. -/
def edited (c : Config) (url : String) : Config :=
  { c with stored := { c.stored with serverUrl := url }, runUrl := none }

/-- Edits the server URL and saves it; the edit is in effect also when it cannot be saved. -/
def setServerUrl (c : Config) (place : Place) (text : String) :
    Except Settings.Fault String × Config × Place :=
  match Channel.serverUrl text with
  | .error fault => (.error (.invalidUrl fault), c, place)
  | .ok url =>
    match (c.edited url).save place with
    | .ok place' => (.ok url, c.edited url, place')
    | .error fault => (.error fault, c.edited url, place)

end Config

/-! ## Where the file is -/

namespace Settings

/-- A path below a folder. -/
def below (folder name : String) : String :=
  if folder.toList.getLast? = some '/' then folder ++ name else folder ++ "/" ++ name

/-- The folder for configuration: the one that is set, if it is set to an absolute path, or one in
the home folder. -/
def configFolder (configured : Option String) (home : String) : String :=
  match configured with
  | some folder => if folder.toList.head? = some '/' then folder else below home ".config"
  | none => below home ".config"

/-- The folder for the settings file. -/
def folder (configured : Option String) (home : String) : String :=
  below (configFolder configured home) "voice-pipeline-client"

/-- Where the settings file is. -/
def defaultPath (configured : Option String) (home : String) : String :=
  below (folder configured home) "settings.json"

/-- The variable that overrides the server URL for one run. -/
def serverUrlVariable : String := "VOICE_PIPELINE_SERVER_URL"

example : defaultPath (some "/cfg/") "/h" = "/cfg/voice-pipeline-client/settings.json" := by decide
example : defaultPath (some "cfg") "/h" = "/h/.config/voice-pipeline-client/settings.json" := by
  decide

end Settings

end VoiceTicket
