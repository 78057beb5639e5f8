/-
  What is left of an edit of the server URL that failed.

  1. **Data** — two configurations are the `Same` to a caller if the URL in effect, the settings in
     effect and the override are.  An edit is `Undone` if, should it fail, the configuration is
     the same and the store is untouched.

  2. **Specification** — `undone_iff`: an edit that fails leaves the desk as it was, but for the
     configuration, which already has the new URL if it was the file that could not be written.
     So an edit is undone exactly if its URL is invalid, or saving succeeds, or there was nothing
     to change.

  3. **Crux** — the edit is put into effect before it is saved (`setServerUrl_of_unsaved`); the
     command can fail in two ways only, and either determines the desk after it
     (`desk_of_failure`).
-/
import VoiceTicket.Commands
import VoiceTicket.Proofs.Settings.Calls

namespace VoiceTicket

/-! ## What a caller sees of the settings -/

namespace Config

/-- No caller can tell the settings in use apart. -/
structure Same (c c' : Config) : Prop where
  serverUrl : c'.serverUrl = c.serverUrl
  current : c'.current = c.current
  runUrl : c'.runUrl = c.runUrl

theorem Same.refl (c : Config) : c.Same c := ⟨rfl, rfl, rfl⟩

/-- An edit is seen unless it edits nothing: there is no override to replace, and the URL is the one
that is stored. -/
theorem same_edited_iff {c : Config} {url : String} :
    c.Same (c.edited url) ↔ c.runUrl = none ∧ c.stored.serverUrl = url := by
  constructor
  · intro same
    have fresh : c.runUrl = none := same.runUrl.symm
    have shown : url = c.runUrl.getD c.stored.serverUrl := same.serverUrl
    rw [fresh, Option.getD_none] at shown
    exact ⟨fresh, shown.symm⟩
  · rintro ⟨fresh, rfl⟩
    have unedited : c.edited c.stored.serverUrl = c := by
      rw [edited, ← fresh]
    rw [unedited]
    exact Same.refl c

/-- Saving an edit succeeds where saving does. -/
theorem saves_edited_iff {c : Config} {place : Place} {url : String} :
    (c.edited url).Saves place ↔ c.Saves place :=
  ⟨fun saves => saves.of_onDisk rfl, fun saves => saves.of_onDisk rfl⟩

/-- An edit that is accepted fails exactly if it cannot be saved. -/
theorem setServerUrl_fails_iff {c : Config} {place : Place} {text url : String}
    (valid : Channel.serverUrl text = .ok url) :
    (∃ fault, (c.setServerUrl place text).1 = .error fault) ↔ ¬ c.Saves place := by
  have same : (c.edited url).Saves place ↔ c.Saves place := saves_edited_iff
  rw [← same]
  cases saved : (c.edited url).save place with
  | ok place' =>
    rw [setServerUrl_of_saved valid saved]
    exact ⟨fun ⟨_, failed⟩ => (nomatch failed), fun unsaved => absurd ⟨place', saved⟩ unsaved⟩
  | error fault =>
    rw [setServerUrl_of_unsaved valid saved]
    refine ⟨fun _ ⟨place', found⟩ => ?_, fun _ => ⟨fault, rfl⟩⟩
    rw [saved] at found
    cases found

end Config

/-! ## The command -/

namespace Desk

variable {d : Desk} {text : String}

/-- The command fails. -/
def EditFails (d : Desk) (text : String) : Prop := ∃ fault, (d.setServerUrl text).1 = .error fault

/-- The command fails exactly when the settings refuse the edit. -/
theorem editFails_iff :
    d.EditFails text ↔ ∃ fault, (d.config.setServerUrl d.place text).1 = .error fault := by
  rw [EditFails, Desk.setServerUrl]
  rcases d.config.setServerUrl d.place text with ⟨_ | url, config, place⟩
  · exact ⟨fun _ => ⟨_, rfl⟩, fun _ => ⟨_, rfl⟩⟩
  · exact ⟨fun ⟨_, failed⟩ => (nomatch failed), fun ⟨_, failed⟩ => (nomatch failed)⟩

/-- A command that fails touches nothing but the settings and their place. -/
theorem setServerUrl_of_refused {fault : Settings.Fault} {config : Config} {place : Place}
    (refused : d.config.setServerUrl d.place text = (.error fault, config, place)) :
    d.setServerUrl text = (.error (.ofSettings fault), { d with config, place }) := by
  rw [Desk.setServerUrl, refused]

/-- Where the URL is invalid the command fails, and nothing has happened. -/
theorem setServerUrl_of_invalid {fault : Channel.Fault}
    (invalid : Channel.serverUrl text = .error fault) :
    d.setServerUrl text = (.error (.ofSettings (.invalidUrl fault)), d) :=
  setServerUrl_of_refused (Config.setServerUrl_of_error invalid)

/-- **The two ways to fail.**  Either the URL is invalid, and the desk is as it was; or the settings
cannot be saved, and the desk is as it was but for the edit, which is in effect. -/
theorem desk_of_failure (failed : d.EditFails text) :
    ((∃ fault, Channel.serverUrl text = .error fault) ∧ (d.setServerUrl text).2 = d) ∨
      ∃ url, Channel.serverUrl text = .ok url ∧ ¬ d.config.Saves d.place ∧
        (d.setServerUrl text).2 = { d with config := d.config.edited url } := by
  cases valid : Channel.serverUrl text with
  | error fault =>
    rw [setServerUrl_of_invalid valid]
    exact Or.inl ⟨⟨fault, rfl⟩, rfl⟩
  | ok url =>
    have unsaved := (Config.setServerUrl_fails_iff valid).1 (editFails_iff.1 failed)
    refine Or.inr ⟨url, rfl, unsaved, ?_⟩
    cases saved : (d.config.edited url).save d.place with
    | ok place' => exact absurd (Config.saves_edited_iff.1 ⟨place', saved⟩) unsaved
    | error fault =>
      rw [setServerUrl_of_refused (Config.setServerUrl_of_unsaved valid saved)]

/-- Should the edit fail, nobody can tell that it was tried. -/
def Undone (d : Desk) (text : String) : Prop :=
  d.EditFails text →
    d.config.Same (d.setServerUrl text).2.config ∧ (d.setServerUrl text).2.store = d.store

/-- An edit that leaves no trace where it cannot be saved is none, or not valid. -/
theorem harmless_of_undone {d : Desk} {text : String} (undone : d.Undone text)
    (unsaved : ¬ d.config.Saves d.place) :
    (∃ fault, Channel.serverUrl text = .error fault) ∨
      (d.config.runUrl = none ∧ Channel.serverUrl text = .ok d.config.stored.serverUrl) := by
  cases valid : Channel.serverUrl text with
  | error fault => exact Or.inl ⟨fault, rfl⟩
  | ok url =>
    -- The file cannot be written, so the edit is in effect: it must have been none.
    have failed := editFails_iff.2 ((Config.setServerUrl_fails_iff valid).2 unsaved)
    have same := (undone failed).1
    have config : (d.setServerUrl text).2.config = d.config.edited url := by
      obtain ⟨⟨fault, invalid⟩, _⟩ | ⟨url', valid', _, left⟩ := desk_of_failure failed
      · rw [valid] at invalid
        cases invalid
      · rw [valid] at valid'
        rw [left, Except.ok.inj valid']
    rw [config, Config.same_edited_iff] at same
    obtain ⟨fresh, stored⟩ := same
    exact Or.inr ⟨fresh, by rw [stored]⟩

/-- **What is left of an edit that failed.**  A command that fails leaves the store, the settings
file and the wire as they were, and the settings in use either as they were or with the edit in
effect.  It leaves no trace exactly if the URL is invalid, or the settings can be saved (and so the
command does not fail), or the edit was none. -/
theorem undone_iff (d : Desk) (text : String) :
    (d.EditFails text →
        ∃ config, (d.setServerUrl text).2 = { d with config } ∧
          (config = d.config ∨
            ∃ url, Channel.serverUrl text = .ok url ∧ config = d.config.edited url)) ∧
      (d.Undone text ↔
        (∃ fault, Channel.serverUrl text = .error fault) ∨ d.config.Saves d.place ∨
          (d.config.runUrl = none ∧ Channel.serverUrl text = .ok d.config.stored.serverUrl)) := by
  refine ⟨fun failed => ?_, fun undone => ?_, fun harmless failed => ?_⟩
  · obtain ⟨_, same⟩ | ⟨url, valid, _, left⟩ := desk_of_failure failed
    · exact ⟨d.config, same, Or.inl rfl⟩
    · exact ⟨d.config.edited url, left, Or.inr ⟨url, valid, rfl⟩⟩
  · by_cases saves : d.config.Saves d.place
    · exact Or.inr (Or.inl saves)
    · exact (harmless_of_undone undone saves).imp_right Or.inr
  · obtain ⟨_, same⟩ | ⟨url, valid, unsaved, left⟩ := desk_of_failure failed
    · rw [same]
      exact ⟨Config.Same.refl d.config, rfl⟩
    · have idle : d.config.runUrl = none ∧ d.config.stored.serverUrl = url := by
        obtain ⟨fault, invalid⟩ | saves | ⟨fresh, stored⟩ := harmless
        · rw [valid] at invalid
          cases invalid
        · exact absurd saves unsaved
        · rw [valid] at stored
          exact ⟨fresh, (Except.ok.inj stored).symm⟩
      rw [left]
      exact ⟨Config.same_edited_iff.2 idle, rfl⟩

/-- A desk whose settings file cannot be written, since a directory stands in its place. -/
def unwritable : Desk := .new ⟨.standard, none, true⟩ .directory .unreachable

theorem not_saves_unwritable : ¬ unwritable.config.Saves unwritable.place := by
  rintro ⟨place, saved⟩
  cases saved

/-- An edit of another URL, which is valid. -/
theorem serverUrl_gpuBox : Channel.serverUrl "http://gpu-box:8000" = .ok "http://gpu-box:8000" :=
  toOption_eq_some.1 (by decide +kernel)

/-- Where a directory stands in the place of the file, an edit fails and is in effect all the
same. -/
theorem not_forall_undone : ¬ ∀ (d : Desk) (text : String), d.Undone text := by
  intro all
  have failed : unwritable.EditFails "http://gpu-box:8000" :=
    editFails_iff.2 ((Config.setServerUrl_fails_iff serverUrl_gpuBox).2 not_saves_unwritable)
  have same := (all unwritable "http://gpu-box:8000" failed).1.serverUrl
  have edited : (unwritable.setServerUrl "http://gpu-box:8000").2.config.serverUrl =
      "http://gpu-box:8000" := by
    decide +kernel
  rw [edited] at same
  exact absurd same (by decide)

/-- Setting the URL that is stored where it cannot be saved: the command fails, and leaves no
trace. -/
theorem undone_iff_unchanged :
    unwritable.Undone "http://localhost:8000" ∧ ¬ unwritable.Undone "http://gpu-box:8000" := by
  have stored : Channel.serverUrl "http://localhost:8000" = .ok "http://localhost:8000" :=
    toOption_eq_some.1 (by decide +kernel)
  refine ⟨(undone_iff unwritable _).2.2 (Or.inr (Or.inr ⟨rfl, stored⟩)), fun undone => ?_⟩
  obtain ⟨fault, invalid⟩ | saves | ⟨_, same⟩ := (undone_iff unwritable _).2.1 undone
  · rw [serverUrl_gpuBox] at invalid
    cases invalid
  · exact not_saves_unwritable saves
  · rw [serverUrl_gpuBox] at same
    exact absurd (Except.ok.inj same) (by decide)

end Desk

end VoiceTicket
