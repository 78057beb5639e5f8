/-
  Overrides and edits of the server URL.

  1. **Data** — a `Config.Call` overrides the server URL for one run or edits it.
     `Call.accepted?` is the URL that a call is accepted with, `Call.edited?` the one that an edit
     is accepted with.

  2. **Specification** — `serverUrl_after`: the URL in effect is that of the last call that was
     accepted, the other settings are never touched, and a settings file holds the URL of the last
     edit that was accepted, whatever the overrides were.

  3. **Crux** — an override never touches what is stored, and an edit replaces it; so the URL in
     effect follows all calls and the one that is stored follows the edits alone, and each is the
     last of a list (`getD_getLast?_cons`).
-/
import VoiceTicket.Proofs.Settings.Loading

namespace VoiceTicket.Config

/-- A call on the settings in use. -/
inductive Call where
  | override (url : Option String)
  | edit (text : String)
deriving DecidableEq, Repr

namespace Call

/-- The URL that an edit is accepted with. -/
def edited? : Call → Option String
  | .override _ => none
  | .edit text => (Channel.serverUrl text).toOption

/-- The URL that a call is accepted with; a blank override is ignored. -/
def accepted? : Call → Option String
  | .override none => none
  | .override (some raw) =>
    if Text.isBlankText raw then none else (Channel.serverUrl raw).toOption
  | .edit text => (Channel.serverUrl text).toOption

end Call

/-- Makes a call. -/
def call (c : Config) (place : Place) : Call → Config × Place
  | .override url => (c.withOverride url, place)
  | .edit text => (c.setServerUrl place text).2

/-- Makes some calls, one after the other. -/
def after (c : Config) (place : Place) : List Call → Config × Place
  | [] => (c, place)
  | first :: calls => after (c.call place first).1 (c.call place first).2 calls

variable {c : Config} {place place' : Place} {text url : String}

/-! ## One call -/

theorem setServerUrl_of_error {fault : Channel.Fault}
    (invalid : Channel.serverUrl text = .error fault) :
    c.setServerUrl place text = (.error (.invalidUrl fault), c, place) := by
  rw [setServerUrl, invalid]

theorem setServerUrl_of_saved (valid : Channel.serverUrl text = .ok url)
    (saved : (c.edited url).save place = .ok place') :
    c.setServerUrl place text = (.ok url, c.edited url, place') := by
  simp only [setServerUrl, valid, saved]

theorem setServerUrl_of_unsaved {fault : Settings.Fault} (valid : Channel.serverUrl text = .ok url)
    (failed : (c.edited url).save place = .error fault) :
    c.setServerUrl place text = (.error fault, c.edited url, place) := by
  simp only [setServerUrl, valid, failed]

/-- An edit that is accepted is in effect whether or not it can be saved. -/
theorem config_of_edit (valid : Channel.serverUrl text = .ok url) (place : Place) :
    (c.setServerUrl place text).2.1 = c.edited url := by
  cases saved : (c.edited url).save place with
  | ok place' => rw [setServerUrl_of_saved valid saved]
  | error fault => rw [setServerUrl_of_unsaved valid saved]

/-- A call that is not accepted changes nothing; one that is accepted changes the server URL: an
override that of the run, an edit the one that is stored. -/
theorem call_cases (c : Config) (place : Place) (x : Call) :
    (x.accepted? = none ∧ x.edited? = none ∧ c.call place x = (c, place)) ∨
      (∃ url, x.accepted? = some url ∧ x.edited? = none ∧
        c.call place x = ({ c with runUrl := some url }, place)) ∨
      ∃ url text, x = .edit text ∧ Channel.serverUrl text = .ok url ∧ x.accepted? = some url ∧
        x.edited? = some url ∧ (c.call place x).1 = c.edited url := by
  cases x with
  | override url =>
    cases url with
    | none => exact Or.inl ⟨rfl, rfl, rfl⟩
    | some raw =>
      rw [call, withOverride, Call.accepted?]
      cases Text.isBlankText raw with
      | true => exact Or.inl ⟨rfl, rfl, rfl⟩
      | false =>
        cases Channel.serverUrl raw with
        | error fault => exact Or.inl ⟨rfl, rfl, rfl⟩
        | ok url => exact Or.inr (Or.inl ⟨url, rfl, rfl, rfl⟩)
  | edit text =>
    cases valid : Channel.serverUrl text with
    | error fault =>
      refine Or.inl ⟨?_, ?_, ?_⟩
      · rw [Call.accepted?, valid]
        rfl
      · rw [Call.edited?, valid]
        rfl
      · rw [call, setServerUrl_of_error valid]
    | ok url =>
      refine Or.inr (Or.inr ⟨url, text, rfl, valid, ?_, ?_, ?_⟩)
      · rw [Call.accepted?, valid]
        rfl
      · rw [Call.edited?, valid]
        rfl
      · rw [call, config_of_edit valid place]

/-- The URL in effect follows every call. -/
theorem serverUrl_call (c : Config) (place : Place) (x : Call) :
    (c.call place x).1.serverUrl = x.accepted?.getD c.serverUrl := by
  rcases call_cases c place x with
    ⟨none, _, same⟩ | ⟨url, some, _, same⟩ | ⟨url, _, _, _, some, _, same⟩
  · rw [same, none]
    rfl
  · rw [same, some]
    rfl
  · rw [same, some]
    rfl

/-- What is stored follows the edits alone, and only its server URL does. -/
theorem stored_call (c : Config) (place : Place) (x : Call) :
    (c.call place x).1.stored =
      { c.stored with serverUrl := x.edited?.getD c.stored.serverUrl } := by
  rcases call_cases c place x with
    ⟨_, none, same⟩ | ⟨url, _, none, same⟩ | ⟨url, _, _, _, _, some, same⟩
  · rw [same, none]
    rfl
  · rw [same, none]
    rfl
  · rw [same, some]
    rfl

/-! ## The settings file -/

/-- The place holds in full what is stored. -/
def HeldAt (c : Config) (place : Place) : Prop :=
  c.onDisk = true ∧ readPlace place = .ok (c.stored, false)

theorem heldAt_of_loading (loaded : loading place = (.ok c, place')) : c.HeldAt place' := by
  refine ⟨?_, readPlace_of_loading loaded⟩
  rw [(read_of_loading loaded).1]

/-- An edit that is accepted is saved where the settings are held. -/
theorem HeldAt.setServerUrl (held : c.HeldAt place) (valid : Channel.serverUrl text = .ok url) :
    c.setServerUrl place text =
      (.ok url, c.edited url, .file (Text.Utf8.encode (c.edited url).stored.text)) := by
  have written := write_of_readPlace held.2 (c.edited url).stored.text
  have saved : (c.edited url).save place =
      .ok (.file (Text.Utf8.encode (c.edited url).stored.text)) := by
    rw [save, if_pos (show (c.edited url).onDisk = true from held.1), written]
    rfl
  exact setServerUrl_of_saved valid saved

/-- An edit that is accepted leaves a place that holds it. -/
theorem HeldAt.edited (held : c.HeldAt place) (url : String) :
    (c.edited url).HeldAt (.file (Text.Utf8.encode (c.edited url).stored.text)) := by
  have fits : c.stored.Fits := fits_of_readPlace held.2
  have written := write_of_readPlace held.2 (c.edited url).stored.text
  exact ⟨held.1, readPlace_of_write fits written⟩

theorem HeldAt.call (held : c.HeldAt place) (x : Call) :
    (c.call place x).1.HeldAt (c.call place x).2 := by
  rcases call_cases c place x with
    ⟨_, _, same⟩ | ⟨url, _, _, same⟩ | ⟨url, text, rfl, valid, _, _, _⟩
  · rw [same]
    exact held
  · rw [same]
    exact held
  · rw [Config.call, held.setServerUrl valid]
    exact held.edited url

/-! ## Many calls -/

theorem getD_getLast?_cons {α : Type} (first d : α) (rest : List α) :
    (first :: rest).getLast?.getD d = rest.getLast?.getD first := by
  rw [List.getLast?_cons, Option.getD_some]

/-- The last of what a list of calls comes to, or else what there was before. -/
theorem getD_getLast?_filterMap_cons (f : Call → Option String) (first : Call) (calls : List Call)
    (d : String) :
    ((first :: calls).filterMap f).getLast?.getD d =
      (calls.filterMap f).getLast?.getD ((f first).getD d) := by
  cases found : f first with
  | none => rw [List.filterMap_cons_none found, Option.getD_none]
  | some url => rw [List.filterMap_cons_some found, getD_getLast?_cons, Option.getD_some]

theorem serverUrl_of_after (c : Config) (place : Place) (calls : List Call) :
    (c.after place calls).1.serverUrl =
      (calls.filterMap Call.accepted?).getLast?.getD c.serverUrl := by
  induction calls generalizing c place with
  | nil => rfl
  | cons first calls ih =>
    rw [after, ih, serverUrl_call, getD_getLast?_filterMap_cons]

theorem stored_of_after (c : Config) (place : Place) (calls : List Call) :
    (c.after place calls).1.stored =
      { c.stored with
        serverUrl := (calls.filterMap Call.edited?).getLast?.getD c.stored.serverUrl } := by
  induction calls generalizing c place with
  | nil => rfl
  | cons first calls ih =>
    rw [after, ih, stored_call, getD_getLast?_filterMap_cons]

theorem HeldAt.after (held : c.HeldAt place) (calls : List Call) :
    (c.after place calls).1.HeldAt (c.after place calls).2 := by
  induction calls generalizing c place with
  | nil => exact held
  | cons first calls ih => exact ih (held.call first)

/-! ## Saving -/

/-- Saving succeeds. -/
def Saves (c : Config) (place : Place) : Prop := ∃ place', c.save place = .ok place'

/-- Whether saving succeeds is a matter of the place, not of what is saved. -/
theorem Saves.of_onDisk {c' : Config} (saves : c.Saves place) (same : c'.onDisk = c.onDisk) :
    c'.Saves place := by
  obtain ⟨place', saved⟩ := saves
  cases disk : c.onDisk with
  | false => exact ⟨place, by rw [save, same, disk]; rfl⟩
  | true =>
    rw [save, if_pos disk] at saved
    have found := mapError_eq_ok.1 saved
    refine ⟨.file (Text.Utf8.encode c'.stored.text), ?_⟩
    rw [save, same, if_pos disk]
    cases place <;> first | rfl | cases found

/-- What was saved can be saved again. -/
theorem Saves.again (saved : c.save place = .ok place') : c.Saves place' := by
  cases disk : c.onDisk with
  | false => exact ⟨place', by rw [save, disk]; rfl⟩
  | true =>
    rw [save, if_pos disk] at saved
    rw [eq_file_of_write (mapError_eq_ok.1 saved)]
    exact ⟨_, by rw [save, if_pos disk]; rfl⟩

/-- Where saving succeeds, an edit succeeds exactly if it is accepted. -/
theorem Saves.answer (saves : c.Saves place) (text : String) :
    (c.setServerUrl place text).1.toOption = (Call.edit text).edited? := by
  rw [Call.edited?]
  cases valid : Channel.serverUrl text with
  | error fault =>
    rw [setServerUrl_of_error valid]
    rfl
  | ok url =>
    have stays : (c.edited url).Saves place := saves.of_onDisk rfl
    obtain ⟨place', saved⟩ := stays
    rw [setServerUrl_of_saved valid saved]
    rfl

theorem Saves.call (saves : c.Saves place) (x : Call) :
    (c.call place x).1.Saves (c.call place x).2 := by
  rcases call_cases c place x with
    ⟨_, _, same⟩ | ⟨url, _, _, same⟩ | ⟨url, text, rfl, valid, _, _, _⟩
  · rw [same]
    exact saves
  · rw [same]
    exact saves.of_onDisk rfl
  · have stays : (c.edited url).Saves place := saves.of_onDisk rfl
    obtain ⟨place', saved⟩ := stays
    rw [Config.call, setServerUrl_of_saved valid saved]
    exact Saves.again saved

theorem Saves.after (saves : c.Saves place) (calls : List Call) :
    (c.after place calls).1.Saves (c.after place calls).2 := by
  induction calls generalizing c place with
  | nil => exact saves
  | cons first calls ih => exact ih (saves.call first)

/-- **Overrides and edits of the server URL.**  After any calls the URL in effect, which is the one
in the settings in effect, is that of the last call that was accepted, and the other settings are
as they were.  Where saving succeeds, an edit is answered with the URL that it is accepted with;
and a settings file is loaded afresh as the settings that were loaded, with the URL of the last
edit that was accepted. -/
theorem serverUrl_after (c : Config) (place : Place) (fresh : c.runUrl = none)
    (calls : List Call) :
    (c.after place calls).1.serverUrl =
        (calls.filterMap Call.accepted?).getLast?.getD c.stored.serverUrl ∧
      (c.after place calls).1.current =
        { c.stored with serverUrl := (c.after place calls).1.serverUrl } ∧
      (c.Saves place → ∀ text,
        ((c.after place calls).1.setServerUrl (c.after place calls).2 text).1.toOption =
          (Call.edit text).edited?) ∧
      ∀ origin, loading origin = (.ok c, place) →
        loading (c.after place calls).2 =
          (.ok ⟨{ c.stored with
              serverUrl := (calls.filterMap Call.edited?).getLast?.getD c.stored.serverUrl },
            none, true⟩, (c.after place calls).2) := by
  have url : c.serverUrl = c.stored.serverUrl := by
    rw [serverUrl, fresh]
    rfl
  refine ⟨?_, ?_, fun saves text => (saves.after calls).answer text, fun origin loaded => ?_⟩
  · rw [serverUrl_of_after, url]
  · rw [current, stored_of_after]
  · have held := (heldAt_of_loading loaded).after calls
    have again := loading_of_whole held.2
    rw [stored_of_after] at again
    exact again

/-- An override, an edit and two more overrides, one of them invalid: the last one is in effect, and
the file holds the edit. -/
theorem serverUrl_after_overrides :
    let c : Config := ⟨.standard, none, true⟩
    let place := Place.file (Text.Utf8.encode Settings.standard.text)
    let calls : List Call := [.override (some "http://gpu-box:8000"),
      .edit " http://localhost:9000/ ", .override (some "ws://b"), .override (some "nonsense")]
    (c.after place calls).1.serverUrl = "ws://b" ∧
      loading (c.after place calls).2 = (.ok ⟨{ Settings.standard with
        serverUrl := "http://localhost:9000" }, none, true⟩, (c.after place calls).2) := by
  intro c place calls
  have fits : Settings.standard.Fits := ⟨⟨by decide, by decide, by decide⟩, by decide⟩
  have written : Place.nothing.write Settings.standard.text = .ok place := rfl
  have loaded : loading place = (.ok c, place) := loading_of_whole (readPlace_of_write fits written)
  obtain ⟨url, _, _, again⟩ := serverUrl_after c place rfl calls
  have shown : (calls.filterMap Call.accepted?).getLast? = some "ws://b" := by decide +kernel
  have stored : (calls.filterMap Call.edited?).getLast? = some "http://localhost:9000" := by
    decide +kernel
  rw [shown] at url
  have afresh := again place loaded
  rw [stored] at afresh
  exact ⟨url, afresh⟩

end VoiceTicket.Config
