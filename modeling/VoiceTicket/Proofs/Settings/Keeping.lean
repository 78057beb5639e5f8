/-
  What a settings file keeps.

  1. **Data** — `Settings.Keeps before after edited`: the value `after` still has all that `before`
     gave, but for the server URL if that was edited.  `Settings.Complete`: nothing is missing.
     `Settings.Known`: nothing is given but settings, each by its name.

  2. **Program** — `Config.editAll` edits the server URL again and again, as long as that succeeds.

  3. **Specification** — `keeps_iff`: a file that is loaded and edited keeps what it gave exactly if
     it was not written at all, or gave nothing but settings.  A file that gives anything else loses
     it as soon as a value is filled in or the server URL edited (`not_forall_keeps`).

  4. **Crux** — what is missing is filled into the object that was read, but what is written is the
     text of the settings alone; so a file that was written has the settings and nothing else
     (`keeps_written_iff`).
-/
import VoiceTicket.Proofs.Settings.Calls

namespace VoiceTicket

namespace Settings

open Json (given? find?)

/-! ## What a file gives -/

/-- What was given is still there: each key with its value, the delays in their object, and the
server URL unless that was edited. -/
structure Keeps (before after : Json) (edited : Prop) : Prop where
  values : ∀ key value, before.given? key = some value → (key = "server_url" → ¬edited) →
    (key = "reconnect" ∧ value.isObject = true) ∨ after.field? key = some value
  delays : ∀ members, before.given? "reconnect" = some (.obj members) →
    ∃ kept, after.field? "reconnect" = some (.obj kept) ∧
      ∀ key value, given? key (.obj members) = some value → find? key kept = some value

/-- Nothing is missing. -/
structure Complete (v : Json) : Prop where
  values : ∀ key ∈ defaults.map Prod.fst, (v.given? key).isSome = true
  delays : ∀ members, v.given? "reconnect" = some (.obj members) →
    ∀ key ∈ RetrySettings.defaults.map Prod.fst, (given? key (.obj members)).isSome = true

/-- Nothing is given but settings, each by its name. -/
structure Known (v : Json) : Prop where
  values : ∀ key value, v.given? key = some value → key ∈ defaults.map Prod.fst
  noList : ∀ items, v.given? "reconnect" ≠ some (.arr items)
  delays : ∀ members, v.given? "reconnect" = some (.obj members) →
    ∀ key value, given? key (.obj members) = some value → key ∈ RetrySettings.defaults.map Prod.fst

variable {key : String} {value v : Json} {members : List (String × Json)} {s s' : Settings}
  {edited : Prop}

theorem field?_of_given? (there : v.given? key = some value) : v.field? key = some value := by
  rw [given?] at there
  split at there
  · cases there
  · exact there

theorem mem_of_find? (found : find? key members = some value) : key ∈ members.map Prod.fst := by
  by_cases there : key ∈ members.map Prod.fst
  · exact there
  · rw [Json.find?_of_not_mem there] at found
    cases found

theorem Keeps.refl (members : List (String × Json)) (edited : Prop) :
    Keeps (.obj members) (.obj members) edited where
  values := fun _ _ there _ => Or.inr (field?_of_given? there)
  delays := fun _ there => ⟨_, field?_of_given? there, fun _ _ inner => field?_of_given? inner⟩

/-! ## When a file is not written -/

theorem delaysOf_of_given? (there : v.given? "reconnect" = some value) : delaysOf v = value := by
  rw [delaysOf, there]
  rfl

/-- Nothing is filled in exactly if nothing is missing. -/
theorem seed_snd_iff : (seed members).2 = false ↔ Complete (.obj members) := by
  have top : (seedAll defaults members).2 = false ↔
      ∀ k ∈ defaults.map Prod.fst, (given? k (.obj members)).isSome := seedAll_snd distinct_defaults
  constructor
  · intro whole
    have filled : (seedAll defaults members).2 = false := by
      cases same : delaysOf (.obj members) with
      | obj delays =>
        rw [seed_of_obj same, Bool.or_eq_false_iff] at whole
        exact whole.1
      | _ =>
        rw [seed_of_not_obj (by simp [same])] at whole
        exact whole
    refine ⟨top.1 filled, fun delays there => ?_⟩
    rw [seed_of_obj (delaysOf_of_given? there), Bool.or_eq_false_iff] at whole
    exact (seedAll_snd distinct_retryDefaults).1 whole.2
  · intro complete
    have filled := top.2 complete.values
    obtain ⟨value, there⟩ := Option.isSome_iff_exists.1 (complete.values "reconnect" (by decide))
    cases value with
    | obj delays =>
      have inner := (seedAll_snd distinct_retryDefaults).2 (complete.delays delays there)
      rw [seed_of_obj (delaysOf_of_given? there), filled, inner]
      rfl
    | _ =>
      rw [seed_of_not_obj (by rw [delaysOf_of_given? there]; simp)]
      exact filled

/-! ## What is written -/

/-- Nothing is written but settings. -/
theorem mem_of_field?_sorted (s : Settings) (there : s.toJson.sorted.field? key = some value) :
    key ∈ defaults.map Prod.fst := by
  rw [sorted_toJson] at there
  have mem : key ∈ ["reconnect", "request_timeout_secs", "server_url"] := mem_of_find? there
  have known : ∀ k ∈ ["reconnect", "request_timeout_secs", "server_url"],
    k ∈ defaults.map Prod.fst := by decide
  exact known key mem

/-- Nothing is written for the delays but delays. -/
theorem mem_of_field?_retry (r : RetrySettings) (there : r.toJson.field? key = some value) :
    key ∈ RetrySettings.defaults.map Prod.fst := by
  have mem : key ∈ ["base_ms", "cap_ms", "jitter_ms"] := mem_of_find? there
  exact mem

theorem field?_reconnect_sorted (s : Settings) :
    s.toJson.sorted.field? "reconnect" = some s.retry.toJson := by
  rw [sorted_toJson]
  rfl

theorem known_of_keeps (keeps : Keeps v s.toJson.sorted edited) : Known v where
  values := fun key value there => by
    by_cases url : key = "server_url"
    · rw [url]
      decide
    rcases keeps.values key value there fun same => absurd same url with ⟨rfl, _⟩ | kept
    · decide
    · exact mem_of_field?_sorted s kept
  noList := fun items there => by
    rcases keeps.values _ _ there (fun same => absurd same (by decide)) with
      ⟨_, none⟩ | kept
    · cases none
    · rw [field?_reconnect_sorted] at kept
      cases kept
  delays := fun members there key value inner => by
    obtain ⟨kept, same, all⟩ := keeps.delays members there
    rw [field?_reconnect_sorted] at same
    cases same
    exact mem_of_field?_retry s.retry (all key value inner)

/-- Delays that are read from an object are written as they were given. -/
theorem find?_retry_of_given? (follows : s.Follows v)
    (there : v.given? "reconnect" = some (.obj members))
    (inner : given? key (.obj members) = some value)
    (known : key ∈ RetrySettings.defaults.map Prod.fst) :
    s.retry.toJson.field? key = some value := by
  have given : (v.given? "reconnect").bind (given? key) = some value := by
    rw [there]
    exact inner
  have base := follows.base
  have cap := follows.cap
  have jitter := follows.jitter
  have cases : key = "base_ms" ∨ key = "cap_ms" ∨ key = "jitter_ms" := by
    simpa [RetrySettings.defaults] using known
  rcases cases with rfl | rfl | rfl
  · rw [given] at base
    exact congrArg some base
  · rw [given] at cap
    exact congrArg some cap
  · rw [given] at jitter
    exact congrArg some jitter

/-- Settings that are read from what has nothing but settings are written as they were given, but
for the server URL if that was edited. -/
theorem keeps_of_known (known : Known v) (follows : s.Follows v)
    (delaysRead : ∀ value, v.given? "reconnect" = some value → value.isObject = true)
    (retry : s'.retry = s.retry) (timeout : s'.timeoutSeconds = s.timeoutSeconds)
    (url : ¬edited → s'.serverUrl = s.serverUrl) : Keeps v s'.toJson.sorted edited where
  values := fun key value there unedited => by
    have cases : key = "server_url" ∨ key = "reconnect" ∨ key = "request_timeout_secs" := by
      simpa [defaults] using known.values key value there
    rcases cases with rfl | rfl | rfl
    · have same := follows.serverUrl
      rw [there] at same
      rw [sorted_toJson, url (unedited rfl)]
      exact Or.inr (congrArg some same)
    · exact Or.inl ⟨rfl, delaysRead value there⟩
    · have same := follows.timeoutSeconds
      rw [there] at same
      rw [sorted_toJson, timeout]
      exact Or.inr (congrArg some same)
  delays := fun members there => by
    refine ⟨_, field?_reconnect_sorted s', fun key value inner => ?_⟩
    rw [retry]
    exact find?_retry_of_given? follows there inner (known.delays members there key value inner)

/-- **A file that was written keeps what it gave exactly if that was nothing but settings.** -/
theorem keeps_written_iff (read : decode (.obj (seed members).1) = .ok s)
    (retry : s'.retry = s.retry) (timeout : s'.timeoutSeconds = s.timeoutSeconds)
    (url : ¬edited → s'.serverUrl = s.serverUrl) :
    Keeps (.obj members) s'.toJson.sorted edited ↔ Known (.obj members) := by
  have shape := delaysOf_of_decode (v := .obj members) read
  constructor
  · exact known_of_keeps
  · intro known
    have noList (items) : (Json.obj members).field? "reconnect" ≠ some (.arr items) := by
      intro list
      exact known.noList items (by rw [given?, list])
    have follows : s.Follows (.obj members) := follows_of_decode read noList
    refine keeps_of_known known follows (fun value there => ?_) retry timeout url
    rcases shape with ⟨delays, same, _⟩ | ⟨items, list⟩
    · rw [delaysOf_of_given? there] at same
      rw [same]
      rfl
    · exact absurd list (noList items)

end Settings

namespace Config

open Settings (Keeps Complete Known)

/-! ## Edits in a row -/

/-- Edits the server URL with one text after the other, as long as that succeeds. -/
def editAll (c : Config) (place : Place) : List String → Except Settings.Fault (Config × Place)
  | [] => .ok (c, place)
  | text :: texts =>
    let edit := c.setServerUrl place text
    edit.1.bind fun _ => editAll edit.2.1 edit.2.2 texts

variable {c c' : Config} {place place' place'' : Place} {texts : List String}
  {members : List (String × Json)}

/-- Edits in a row leave everything alone if there are none, and come to one edit otherwise. -/
theorem editAll_cases (held : c.HeldAt place) (edits : editAll c place texts = .ok (c', place')) :
    (texts = [] ∧ c' = c ∧ place' = place) ∨
      ∃ url, texts ≠ [] ∧ c' = c.edited url ∧
        place' = .file (Text.Utf8.encode (c.edited url).stored.text) := by
  induction texts generalizing c place with
  | nil =>
    cases edits
    exact Or.inl ⟨rfl, rfl, rfl⟩
  | cons text texts ih =>
    rw [editAll] at edits
    cases valid : Channel.serverUrl text with
    | error fault =>
      rw [setServerUrl_of_error valid] at edits
      cases edits
    | ok url =>
      rw [held.setServerUrl valid] at edits
      rcases ih (held.edited url) edits with ⟨_, rfl, rfl⟩ | ⟨url', _, rfl, rfl⟩
      · exact Or.inr ⟨url, List.cons_ne_nil text texts, rfl, rfl⟩
      · exact Or.inr ⟨url', List.cons_ne_nil text texts, rfl, rfl⟩

theorem HeldAt.editAll_one {text url : String} (held : c.HeldAt place)
    (valid : Channel.serverUrl text = .ok url) :
    editAll c place [text] =
      .ok (c.edited url, .file (Text.Utf8.encode (c.edited url).stored.text)) := by
  rw [editAll, held.setServerUrl valid]
  rfl

/-- What a file that was written has kept. -/
theorem keeps_of_written {s s' : Settings} (written : place''.content? = some s'.toJson.sorted)
    (read : Settings.decode (.obj (Settings.seed members).1) = .ok s)
    (retry : s'.retry = s.retry) (timeout : s'.timeoutSeconds = s.timeoutSeconds)
    (url : ¬texts ≠ [] → s'.serverUrl = s.serverUrl)
    (stale : ¬(texts = [] ∧ Complete (.obj members))) :
    ∃ after, place''.content? = some (.obj after) ∧
      (Keeps (.obj members) (.obj after) (texts ≠ []) ↔
        (texts = [] ∧ Complete (.obj members)) ∨ Known (.obj members)) := by
  have kept : Keeps (.obj members) s'.toJson.sorted (texts ≠ []) ↔ Known (.obj members) :=
    Settings.keeps_written_iff read retry timeout url
  rw [Settings.sorted_toJson] at written kept
  refine ⟨_, written, kept.trans ?_⟩
  constructor
  · exact Or.inr
  · rintro (whole | known)
    · exact absurd whole stale
    · exact known

/-- **What a settings file keeps.**  Whenever a file that holds an object is loaded and the server
URL is then edited any number of times, the file holds an object; and it has kept all that it gave
exactly if nothing was missing and nothing was edited, or it gave nothing but settings. -/
theorem keeps_iff (object : place.content? = some (.obj members))
    (loaded : loading place = (.ok c, place'))
    (edits : editAll c place' texts = .ok (c', place'')) :
    ∃ after, place''.content? = some (.obj after) ∧
      (Keeps (.obj members) (.obj after) (texts ≠ []) ↔
        (texts = [] ∧ Complete (.obj members)) ∨ Known (.obj members)) := by
  have held := heldAt_of_loading loaded
  obtain ⟨_, stale, read, left⟩ := read_of_loading loaded
  have fits : c.stored.Fits := fits_of_readPlace read
  obtain ⟨v, content, decoded, missing⟩ := exists_content read
  rw [object] at content
  cases content
  rcases editAll_cases held edits with ⟨rfl, rfl, rfl⟩ | ⟨url, many, rfl, rfl⟩
  · -- Without an edit, what the load left is still there.
    cases stale with
    | false =>
      have complete : Complete (.obj members) := Settings.seed_snd_iff.1 missing
      rw [if_neg Bool.false_ne_true] at left
      rw [left]
      exact ⟨members, object, iff_of_true (Keeps.refl members _) (Or.inl ⟨rfl, complete⟩)⟩
    | true =>
      rw [if_pos rfl] at left
      refine keeps_of_written (content?_of_write fits left) decoded rfl rfl (fun _ => rfl) ?_
      rintro ⟨_, complete⟩
      have whole : (Settings.seed members).2 = false := Settings.seed_snd_iff.2 complete
      have filled : (Settings.seed members).2 = true := missing
      rw [whole] at filled
      cases filled
  · -- Otherwise the last edit was written, whatever the load left.
    have written := write_of_readPlace held.2 (c.edited url).stored.text
    have fits' : (c.edited url).stored.Fits := fits
    exact keeps_of_written (content?_of_write fits' written) decoded rfl rfl
      (fun unedited => absurd many unedited) fun ⟨empty, _⟩ => many empty

/-- A file with one delay keeps it over the defaults that are filled in and an edit. -/
theorem keeps_iff_jitter :
    ∃ c place' c' place'' after,
      loading (.file (Text.Utf8.encode "\x7b\"reconnect\":\x7b\"jitter_ms\":0\x7d\x7d")) =
          (.ok c, place') ∧
        editAll c place' ["http://b/"] = .ok (c', place'') ∧
        place''.content? = some (.obj after) ∧
        Keeps (.obj [("reconnect", .obj [("jitter_ms", .ofNat 0)])]) (.obj after)
          (["http://b/"] ≠ []) := by
  have read : Settings.ofText "\x7b\"reconnect\":\x7b\"jitter_ms\":0\x7d\x7d" =
      .ok (⟨"http://localhost:8000", ⟨1000, 30000, 0⟩, 120⟩, true) :=
    toOption_eq_some.1 (by decide +kernel)
  have loaded := loading_of_stale (readPlace_file_encode read)
  have valid : Channel.serverUrl "http://b/" = .ok "http://b" :=
    toOption_eq_some.1 (by decide +kernel)
  have edits := (heldAt_of_loading loaded).editAll_one valid
  have spelled : Settings.value? "\x7b\"reconnect\":\x7b\"jitter_ms\":0\x7d\x7d" =
      some (.obj [("reconnect", .obj [("jitter_ms", .ofNat 0)])]) := by decide +kernel
  have object := (content?_file_encode _).trans spelled
  have known : Known (.obj [("reconnect", .obj [("jitter_ms", .ofNat 0)])]) := by
    refine ⟨fun key value there => ?_, fun items list => (by cases list),
      fun members there key value inner => ?_⟩
    · have mem : key ∈ ["reconnect"] := Settings.mem_of_find? (Settings.field?_of_given? there)
      rw [List.mem_singleton.1 mem]
      decide
    · cases there
      have mem : key ∈ ["jitter_ms"] := Settings.mem_of_find? (Settings.field?_of_given? inner)
      rw [List.mem_singleton.1 mem]
      decide
  obtain ⟨after, content, kept⟩ := keeps_iff object loaded edits
  exact ⟨_, _, _, _, after, loaded, edits, content, kept.2 (Or.inr known)⟩

/-- **A file may lose what it gave**: a key that is no setting is gone once the defaults have been
filled in. -/
theorem not_forall_keeps :
    ¬ ∀ (place place' place'' : Place) (c c' : Config) (texts : List String)
        (members : List (String × Json)), place.content? = some (.obj members) →
      loading place = (.ok c, place') → editAll c place' texts = .ok (c', place'') →
        ∃ after, place''.content? = some (.obj after) ∧
          Keeps (.obj members) (.obj after) (texts ≠ []) := by
  intro all
  have read : Settings.ofText "\x7b\"theme\":\"dark\"\x7d" = .ok (.standard, true) :=
    toOption_eq_some.1 (by decide +kernel)
  have found := readPlace_file_encode read
  have spelled : Settings.value? "\x7b\"theme\":\"dark\"\x7d" =
    some (.obj [("theme", .str "dark")]) := by decide +kernel
  have object := (content?_file_encode _).trans spelled
  have loaded := loading_of_stale found
  obtain ⟨after, content, keeps⟩ := all _ _ _ _ _ [] _ object loaded rfl
  have written := content?_of_write (fits_of_readPlace found) (write_of_readPlace found _)
  rw [written, Settings.sorted_toJson] at content
  cases content
  rcases keeps.values "theme" (.str "dark") rfl (fun same => absurd same (by decide)) with
    ⟨same, _⟩ | kept
  · exact absurd same (by decide)
  · cases kept

end Config

end VoiceTicket
