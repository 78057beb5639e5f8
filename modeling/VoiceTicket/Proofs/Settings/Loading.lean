/-
  Loading a settings file.

  1. **Data** — `Place.content?`: the value that the text at a place spells.

  2. **Specification** — `loading_laws`: settings that are loaded follow what the file gives;
     loading them once more gives the same settings and writes nothing; a place that cannot be
     loaded is left as it is; and what was saved is loaded as it was.

  3. **Crux** — a load that succeeds leaves a place that holds the settings in full
     (`readPlace_of_loading`): either nothing was missing and the place is what it was, or the
     settings were written, and their text is read back (`readPlace_of_write`).
-/
import VoiceTicket.Settings.Disk
import VoiceTicket.Proofs.Settings.Reading
import VoiceTicket.Proofs.Text.Encoding

namespace VoiceTicket

variable {place place' : Place} {s : Settings} {c : Config} {stale : Bool} {fault : Settings.Fault}

/-- The value that the text at a place spells; a file that does not exist spells what a blank one
does. -/
def Place.content? (place : Place) : Option Json :=
  match place.read with
  | .ok text => Settings.value? (text.getD "")
  | .error _ => none

namespace Config

/-! ## Reading and writing -/

theorem readPlace_eq_ok_iff :
    readPlace place = .ok (s, stale) ↔
      ∃ text, place.read = .ok text ∧ Settings.ofText (text.getD "") = .ok (s, stale) := by
  rw [readPlace, except_bind_eq_ok]
  refine exists_congr fun text => and_congr mapError_eq_ok ?_
  cases Settings.ofText (text.getD "") with
  | ok found =>
    constructor
    · intro h
      cases h
      rfl
    · intro h
      cases h
      rfl
  | error fault =>
    constructor
    · intro h
      cases fault <;> cases h
    · intro h
      cases h

/-- What is read at a place comes from what it spells. -/
theorem exists_content (read : readPlace place = .ok (s, stale)) :
    ∃ v, place.content? = some v ∧
      Settings.decode (.obj (Settings.seed (Settings.membersOf v).1).1) = .ok s ∧
        ((Settings.membersOf v).2 || (Settings.seed (Settings.membersOf v).1).2) = stale := by
  obtain ⟨text, found, read⟩ := readPlace_eq_ok_iff.1 read
  rw [Place.content?, found]
  exact Settings.ofText_eq_ok_iff.1 read

theorem fits_of_readPlace (read : readPlace place = .ok (s, stale)) : s.Fits := by
  obtain ⟨_, _, read, _⟩ := exists_content read
  exact Settings.fits_of_decode read

/-- A place that can be read can be written. -/
theorem write_of_readPlace (read : readPlace place = .ok (s, stale)) (text : String) :
    place.write text = .ok (.file (Text.Utf8.encode text)) := by
  obtain ⟨_, found, _⟩ := readPlace_eq_ok_iff.1 read
  cases place <;> first | rfl | cases found

theorem eq_file_of_write {text : String} (written : place.write text = .ok place') :
    place' = .file (Text.Utf8.encode text) := by
  cases place <;> cases written <;> rfl

theorem read_file_encode (text : String) :
    (Place.file (Text.Utf8.encode text)).read = .ok (some text) := by
  rw [Place.read, Text.Utf8.decode?_encode]

theorem content?_file_encode (text : String) :
    (Place.file (Text.Utf8.encode text)).content? = Settings.value? text := by
  rw [Place.content?, read_file_encode]
  rfl

/-- A text that is found is read as it says. -/
theorem readPlace_file_encode {text : String} (read : Settings.ofText text = .ok (s, stale)) :
    readPlace (.file (Text.Utf8.encode text)) = .ok (s, stale) :=
  readPlace_eq_ok_iff.2 ⟨some text, read_file_encode text, read⟩

/-- **What was written is read as it was**, and lacks nothing. -/
theorem readPlace_of_write (fits : s.Fits) (written : place.write s.text = .ok place') :
    readPlace place' = .ok (s, false) := by
  rw [eq_file_of_write written]
  exact readPlace_file_encode (Settings.ofText_text fits)

theorem content?_of_write (fits : s.Fits) (written : place.write s.text = .ok place') :
    place'.content? = some s.toJson.sorted := by
  rw [eq_file_of_write written, content?_file_encode]
  exact Settings.value?_text fits

/-! ## Loading -/

/-- A place that lacks nothing is left as it is. -/
theorem loading_of_whole (read : readPlace place = .ok (s, false)) :
    loading place = (.ok ⟨s, none, true⟩, place) := by
  rw [loading, read]
  rfl

/-- A place that lacks something is written. -/
theorem loading_of_stale (read : readPlace place = .ok (s, true)) :
    loading place = (.ok ⟨s, none, true⟩, .file (Text.Utf8.encode s.text)) := by
  have saved : (⟨s, none, true⟩ : Config).save place = .ok (.file (Text.Utf8.encode s.text)) := by
    rw [save, if_pos rfl, write_of_readPlace read]
    rfl
  simp only [loading, read, saved, if_true]

/-- A place that cannot be read is left as it is. -/
theorem loading_of_error (failed : readPlace place = .error fault) :
    loading place = (.error fault, place) := by
  rw [loading, failed]

/-- Settings are loaded as they are read, and written if anything was missing. -/
theorem read_of_loading (loaded : loading place = (.ok c, place')) :
    c = ⟨c.stored, none, true⟩ ∧ ∃ stale, readPlace place = .ok (c.stored, stale) ∧
      if stale then place.write c.stored.text = .ok place' else place' = place := by
  cases read : readPlace place with
  | error fault =>
    rw [loading_of_error read] at loaded
    cases loaded
  | ok found =>
    obtain ⟨s, stale⟩ := found
    cases stale with
    | false =>
      rw [loading_of_whole read] at loaded
      cases loaded
      exact ⟨rfl, false, rfl, rfl⟩
    | true =>
      rw [loading_of_stale read] at loaded
      cases loaded
      exact ⟨rfl, true, rfl, write_of_readPlace read s.text⟩

/-- A load that fails leaves the place as it is: what can be read can be written, so it fails before
anything is written. -/
theorem eq_of_loading_error (failed : loading place = (.error fault, place')) : place' = place := by
  cases read : readPlace place with
  | error found =>
    rw [loading_of_error read] at failed
    cases failed
    rfl
  | ok found =>
    obtain ⟨s, stale⟩ := found
    cases stale with
    | false =>
      rw [loading_of_whole read] at failed
      cases failed
    | true =>
      rw [loading_of_stale read] at failed
      cases failed

/-- **What a load leaves holds the settings in full.** -/
theorem readPlace_of_loading (loaded : loading place = (.ok c, place')) :
    readPlace place' = .ok (c.stored, false) := by
  obtain ⟨_, stale, read, left⟩ := read_of_loading loaded
  cases stale with
  | false =>
    -- Nothing was written, and nothing was missing.
    rw [if_neg Bool.false_ne_true] at left
    rw [left]
    exact read
  | true =>
    -- What stands there is the text of the settings.
    rw [if_pos rfl] at left
    exact readPlace_of_write (fits_of_readPlace read) left

theorem current_of_loading (loaded : loading place = (.ok c, place')) : c.current = c.stored := by
  rw [(read_of_loading loaded).1]
  rfl

/-- Settings that are loaded follow what the place gives. -/
theorem follows_of_loading (loaded : loading place = (.ok c, place')) :
    ∃ v, place.content? = some v ∧
      ((∀ items, v.field? "reconnect" ≠ some (.arr items)) → c.current.Follows v) := by
  obtain ⟨_, stale, read, _⟩ := read_of_loading loaded
  obtain ⟨v, content, decoded, _⟩ := exists_content read
  rw [current_of_loading loaded]
  exact ⟨v, content, Settings.follows_of_decode decoded⟩

/-- **Loading a settings file.**  For every place: settings that are loaded from it follow what it
gives (leaving a list of delays aside), and loading what is left gives them again and writes
nothing; a load that fails leaves the place as it is; and settings that are saved there are loaded
as they were, with nothing to write. -/
theorem loading_laws (place : Place) :
    (∀ (c : Config) (place' : Place), loading place = (.ok c, place') →
      (∃ v, place.content? = some v ∧
        ((∀ items, v.field? "reconnect" ≠ some (.arr items)) → c.current.Follows v)) ∧
      readPlace place' = .ok (c.current, false) ∧ loading place' = (.ok c, place')) ∧
    (∀ (fault : Settings.Fault) (place' : Place),
      loading place = (.error fault, place') → place' = place) ∧
    ∀ (c : Config) (place' : Place), c.onDisk = true → c.stored.Fits → c.save place = .ok place' →
      readPlace place' = .ok (c.stored, false) ∧
        loading place' = (.ok ⟨c.stored, none, true⟩, place') := by
  refine ⟨fun c place' loaded => ?_, fun fault place' failed => eq_of_loading_error failed,
    fun c place' disk fits saved => ?_⟩
  · have whole := readPlace_of_loading loaded
    have again := loading_of_whole whole
    rw [← (read_of_loading loaded).1] at again
    rw [← current_of_loading loaded] at whole
    exact ⟨follows_of_loading loaded, whole, again⟩
  · rw [save, if_pos disk] at saved
    have written : place.write c.stored.text = .ok place' := mapError_eq_ok.1 saved
    have whole := readPlace_of_write fits written
    exact ⟨whole, loading_of_whole whole⟩

/-- A file with nothing but a cap is filled up; one that is no text is left alone; and defaults that
are saved where nothing stood are loaded again. -/
theorem loading_laws_incomplete :
    (∃ c place', loading (.file (Text.Utf8.encode "\x7b\"reconnect\":\x7b\"cap_ms\":5\x7d\x7d")) =
        (.ok c, place') ∧
      c.current.Follows (.obj [("reconnect", .obj [("cap_ms", .ofNat 5)])]) ∧
        loading place' = (.ok c, place')) ∧
    (∃ fault place', loading (.file [0xFF]) = (.error fault, place') ∧ place' = .file [0xFF]) ∧
    ∃ place', save ⟨.standard, none, true⟩ .nothing = .ok place' ∧
      loading place' = (.ok ⟨.standard, none, true⟩, place') := by
  refine ⟨?_, ?_, ?_⟩
  · have read : Settings.ofText "\x7b\"reconnect\":\x7b\"cap_ms\":5\x7d\x7d" =
        .ok (⟨"http://localhost:8000", ⟨1000, 5, 500⟩, 120⟩, true) :=
      toOption_eq_some.1 (by decide +kernel)
    have loaded := loading_of_stale (readPlace_file_encode read)
    obtain ⟨⟨v, content, follows⟩, _, again⟩ := (loading_laws _).1 _ _ loaded
    rw [content?_file_encode] at content
    have spelled : Settings.value? "\x7b\"reconnect\":\x7b\"cap_ms\":5\x7d\x7d" =
      some (.obj [("reconnect", .obj [("cap_ms", .ofNat 5)])]) := by decide +kernel
    cases spelled.symm.trans content
    exact ⟨_, _, loaded, follows (fun items list => by cases list), again⟩
  · have failed : loading (.file [0xFF]) = (.error (.disk .notText), .file [0xFF]) := rfl
    exact ⟨_, _, failed, (loading_laws _).2.1 _ _ failed⟩
  · have fits : Settings.standard.Fits := ⟨⟨by decide, by decide, by decide⟩, by decide⟩
    exact ⟨_, rfl, ((loading_laws .nothing).2.2 ⟨.standard, none, true⟩ _ rfl fits rfl).2⟩

end Config

end VoiceTicket
