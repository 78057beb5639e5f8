/-
  What the text of a settings file says.

  1. **Data** — `Json.given? key v`: what a value gives for a key, which is nothing if that is
     `null`.  `Settings.Fits`: the numbers are such as a settings file can hold.

  2. **Specification** — `ofText_eq_ok_iff`: of the settings in a text, each is the value that is
     given or the default (`Follows`), and the file is to be written anew exactly if something is
     not given (`Complete`).  `ofText_text`: settings are read back from their own text as they
     are, and that text lacks nothing.

  3. **Crux** — filling a value in never touches the other keys, so that what `seed` makes of a key
     can be said for that key alone; and a reading that succeeds is an equation for each key that
     is known.
-/
import VoiceTicket.Settings
import VoiceTicket.Proofs.Json.Printing

namespace VoiceTicket

/-! ## Fields -/

namespace Json

/-- What a value gives for a key: what an object has there, unless it is `null`. -/
def given? (key : String) (v : Json) : Option Json :=
  match v.field? key with
  | some .null => none
  | found => found

theorem given?_of_field?_eq {key : String} {v w : Json} (same : v.field? key = w.field? key) :
    v.given? key = w.given? key := by
  rw [given?, given?, same]

namespace Decoder

variable {α : Type} {key : String} {inner : Decoder α} {v : Json} {a : α}

/-- A field that is there and can be read. -/
def Holds (key : String) (inner : Decoder α) (v : Json) (a : α) : Prop :=
  ∃ w, v.field? key = some w ∧ inner w = .ok a

/-- A field that a record cannot do without is read exactly if it is there and can be read. -/
theorem holds_iff :
    Holds key inner v a ↔ ∃ found, present key inner v = .ok found ∧ require key found = .ok a := by
  cases field : v.field? key with
  | none =>
    rw [present_of_none field]
    constructor
    · rintro ⟨w, there, _⟩
      rw [field] at there
      cases there
    · rintro ⟨found, same, more⟩
      cases same
      cases more
  | some w =>
    rw [present_of_some field]
    constructor
    · rintro ⟨w', there, read⟩
      rw [field] at there
      cases there
      exact ⟨some a, by rw [read]; rfl, rfl⟩
    · rintro ⟨found, same, more⟩
      cases read : inner w with
      | error fault =>
        rw [read] at same
        cases same
      | ok b =>
        rw [read] at same
        cases same
        cases more
        exact ⟨w, field, read⟩

/-- A text is read exactly if it is one. -/
theorem text_eq_ok_iff {s : String} : text v = .ok s ↔ v = .str s := by
  cases v <;> simp [text]

/-- An integer is read exactly if it is the one that is written, and has the bits for it. -/
theorem unsigned_eq_ok_iff {bits n : Nat} :
    unsigned bits v = .ok n ↔ v = .ofNat n ∧ n < Nat.pow 2 bits := by
  cases v with
  | num number =>
    cases number with
    | int i =>
      simp only [unsigned, ofNat]
      constructor
      · intro h
        split at h
        · next range =>
          cases h
          exact ⟨by rw [Int.toNat_of_nonneg range.1], range.2⟩
        · cases h
      · rintro ⟨same, small⟩
        cases same
        exact if_pos ⟨Int.natCast_nonneg n, small⟩
    | float x => simp [unsigned, ofNat]
  | _ => simp [unsigned, ofNat]

theorem holds_text_iff {s : String} : Holds key text v s ↔ v.field? key = some (.str s) := by
  simp [Holds, text_eq_ok_iff]

theorem holds_unsigned_iff {bits n : Nat} :
    Holds key (unsigned bits) v n ↔ v.field? key = some (.ofNat n) ∧ n < Nat.pow 2 bits := by
  constructor
  · rintro ⟨w, there, read⟩
    obtain ⟨rfl, small⟩ := unsigned_eq_ok_iff.1 read
    exact ⟨there, small⟩
  · rintro ⟨there, small⟩
    exact ⟨_, there, unsigned_eq_ok_iff.2 ⟨rfl, small⟩⟩

/-- Integers that are read one after the other all have the bits for it. -/
theorem lt_of_mapM_unsigned {bits : Nat} {items : List Json} {numbers : List Nat}
    (read : items.mapM (unsigned bits) = .ok numbers) : ∀ n ∈ numbers, n < Nat.pow 2 bits := by
  induction items generalizing numbers with
  | nil =>
    cases read
    simp
  | cons item items ih =>
    rw [List.mapM_cons] at read
    obtain ⟨n, first, read⟩ := except_bind_eq_ok.1 read
    obtain ⟨others, rest, read⟩ := except_bind_eq_ok.1 read
    cases read
    intro m mem
    rcases List.mem_cons.1 mem with rfl | mem
    · exact (unsigned_eq_ok_iff.1 first).2
    · exact ih rest m mem

end Decoder

end Json

/-! ## The records -/

open Json.Decoder

namespace RetrySettings

/-- The delays are such as a settings file can hold. -/
def Fits (r : RetrySettings) : Prop :=
  r.base < Nat.pow 2 64 ∧ r.cap < Nat.pow 2 64 ∧ r.jitter < Nat.pow 2 64

variable {v : Json} {r : RetrySettings}

theorem decodeFields_eq_ok_iff :
    decodeFields v = .ok r ↔ Holds "base_ms" (unsigned 64) v r.base ∧
      Holds "cap_ms" (unsigned 64) v r.cap ∧ Holds "jitter_ms" (unsigned 64) v r.jitter := by
  constructor
  · intro h
    obtain ⟨base, readBase, h⟩ := except_bind_eq_ok.1 h
    obtain ⟨cap, readCap, h⟩ := except_bind_eq_ok.1 h
    obtain ⟨jitter, readJitter, h⟩ := except_bind_eq_ok.1 h
    obtain ⟨_, someBase, h⟩ := except_bind_eq_ok.1 h
    obtain ⟨_, someCap, h⟩ := except_bind_eq_ok.1 h
    obtain ⟨_, someJitter, h⟩ := except_bind_eq_ok.1 h
    cases h
    exact ⟨holds_iff.2 ⟨base, readBase, someBase⟩, holds_iff.2 ⟨cap, readCap, someCap⟩,
      holds_iff.2 ⟨jitter, readJitter, someJitter⟩⟩
  · rintro ⟨base, cap, jitter⟩
    obtain ⟨_, readBase, someBase⟩ := holds_iff.1 base
    obtain ⟨_, readCap, someCap⟩ := holds_iff.1 cap
    obtain ⟨_, readJitter, someJitter⟩ := holds_iff.1 jitter
    simp only [decodeFields, except_bind_eq_ok]
    exact ⟨_, readBase, _, readCap, _, readJitter, _, someBase, _, someCap, _, someJitter, rfl⟩

/-- Delays that are read fit into a file, whether they stood in an object or in a list. -/
theorem fits_of_decode (h : decode v = .ok r) : r.Fits := by
  cases v with
  | obj members =>
    obtain ⟨base, cap, jitter⟩ := decodeFields_eq_ok_iff.1 h
    exact ⟨(holds_unsigned_iff.1 base).2, (holds_unsigned_iff.1 cap).2,
      (holds_unsigned_iff.1 jitter).2⟩
  | arr items =>
    have list : decodeList items = .ok r := h
    rw [decodeList] at list
    obtain ⟨numbers, read, same⟩ := except_bind_eq_ok.1 list
    have small := lt_of_mapM_unsigned read
    split at same
    · next base cap jitter =>
      split at same
      · cases same
        exact ⟨small base (by simp), small cap (by simp), small jitter (by simp)⟩
      · cases same
    · cases same
  | _ => cases h

end RetrySettings

namespace Settings

/-- The numbers are such as a settings file can hold. -/
def Fits (s : Settings) : Prop := s.retry.Fits ∧ s.timeoutSeconds < Nat.pow 2 64

variable {v : Json} {s : Settings}

theorem decode_eq_ok_iff :
    decode v = .ok s ↔ Holds "reconnect" RetrySettings.decode v s.retry ∧
      Holds "request_timeout_secs" (unsigned 64) v s.timeoutSeconds ∧
      Holds "server_url" Json.Decoder.text v s.serverUrl := by
  constructor
  · intro h
    obtain ⟨retry, readRetry, h⟩ := except_bind_eq_ok.1 h
    obtain ⟨timeout, readTimeout, h⟩ := except_bind_eq_ok.1 h
    obtain ⟨url, readUrl, h⟩ := except_bind_eq_ok.1 h
    obtain ⟨_, someUrl, h⟩ := except_bind_eq_ok.1 h
    obtain ⟨_, someRetry, h⟩ := except_bind_eq_ok.1 h
    obtain ⟨_, someTimeout, h⟩ := except_bind_eq_ok.1 h
    cases h
    exact ⟨holds_iff.2 ⟨retry, readRetry, someRetry⟩,
      holds_iff.2 ⟨timeout, readTimeout, someTimeout⟩, holds_iff.2 ⟨url, readUrl, someUrl⟩⟩
  · rintro ⟨retry, timeout, url⟩
    obtain ⟨_, readRetry, someRetry⟩ := holds_iff.1 retry
    obtain ⟨_, readTimeout, someTimeout⟩ := holds_iff.1 timeout
    obtain ⟨_, readUrl, someUrl⟩ := holds_iff.1 url
    simp only [decode, except_bind_eq_ok]
    exact ⟨_, readRetry, _, readTimeout, _, readUrl, _, someUrl, _, someRetry, _, someTimeout, rfl⟩

/-- Settings that are read fit into a file. -/
theorem fits_of_decode (h : decode v = .ok s) : s.Fits := by
  obtain ⟨⟨w, _, retry⟩, timeout, _⟩ := decode_eq_ok_iff.1 h
  exact ⟨RetrySettings.fits_of_decode retry, (holds_unsigned_iff.1 timeout).2⟩

/-- Each of the settings is what a value gives for it, or else the default. -/
structure Follows (s : Settings) (v : Json) : Prop where
  serverUrl : .str s.serverUrl = (v.given? "server_url").getD (.str standard.serverUrl)
  base : .ofNat s.retry.base =
    ((v.given? "reconnect").bind (Json.given? "base_ms")).getD (.ofNat standard.retry.base)
  cap : .ofNat s.retry.cap =
    ((v.given? "reconnect").bind (Json.given? "cap_ms")).getD (.ofNat standard.retry.cap)
  jitter : .ofNat s.retry.jitter =
    ((v.given? "reconnect").bind (Json.given? "jitter_ms")).getD (.ofNat standard.retry.jitter)
  timeoutSeconds : .ofNat s.timeoutSeconds =
    (v.given? "request_timeout_secs").getD (.ofNat standard.timeoutSeconds)

/-! ## Filling in -/

open Json (given? find?)

variable {key other : String} {value : Json} {members : List (String × Json)} {missing : Bool}

/-- A value that is filled in is the one that is given, or else the one at hand. -/
theorem find?_seedValue_self :
    find? key (seedValue key value (members, missing)).1 =
      some ((given? key (.obj members)).getD value) := by
  simp only [seedValue, given?, Json.field?]
  cases found : find? key members with
  | none => simp [Json.find?_insert_self]
  | some w => cases w <;> simp [Json.find?_insert_self, found]

/-- Filling a value in touches no other key. -/
theorem find?_seedValue_of_ne (ne : other ≠ key) :
    find? other (seedValue key value (members, missing)).1 = find? other members := by
  simp only [seedValue]
  split
  · exact Json.find?_insert_of_ne ne value members
  · exact Json.find?_insert_of_ne ne value members
  · rfl

theorem given?_seedValue_of_ne (ne : other ≠ key) :
    given? other (.obj (seedValue key value (members, missing)).1) = given? other (.obj members) :=
  Json.given?_of_field?_eq (find?_seedValue_of_ne ne)

/-- A value is missing exactly if it is not given. -/
theorem seedValue_snd :
    (seedValue key value (members, missing)).2 = false ↔
      missing = false ∧ (given? key (.obj members)).isSome := by
  simp only [seedValue, given?, Json.field?]
  cases find? key members with
  | none => simp
  | some w => cases w <;> simp

variable {values : List (String × Json)}

/-- What stands under a key when some values have been filled in: the value that is given, or else
the one at hand; what it was where there is none at hand. -/
theorem find?_foldl_seedValue (distinct : (values.map Prod.fst).Nodup) (seeded : Seeded) :
    find? key (values.foldl (fun seeded m => seedValue m.1 m.2 seeded) seeded).1 =
      match find? key values with
      | some value => some ((given? key (.obj seeded.1)).getD value)
      | none => find? key seeded.1 := by
  induction values generalizing seeded with
  | nil => rfl
  | cons m values ih =>
    obtain ⟨k, value⟩ := m
    rw [List.map_cons, List.nodup_cons] at distinct
    obtain ⟨members, missing⟩ := seeded
    -- A key is filled in once only, so the values behind it leave it as it is.
    rw [List.foldl_cons, ih distinct.2]
    by_cases same : k = key
    · subst same
      rw [Json.find?_of_not_mem distinct.1, find?, if_pos rfl]
      exact find?_seedValue_self
    · have ne : key ≠ k := fun e => same e.symm
      rw [find?, if_neg same, given?_seedValue_of_ne ne, find?_seedValue_of_ne ne]

/-- Nothing is missing exactly if all values are given. -/
theorem foldl_seedValue_snd (distinct : (values.map Prod.fst).Nodup) (seeded : Seeded) :
    (values.foldl (fun seeded m => seedValue m.1 m.2 seeded) seeded).2 = false ↔
      seeded.2 = false ∧ ∀ k ∈ values.map Prod.fst, (given? k (.obj seeded.1)).isSome := by
  induction values generalizing seeded with
  | nil => simp
  | cons m values ih =>
    obtain ⟨k, value⟩ := m
    rw [List.map_cons, List.nodup_cons] at distinct
    obtain ⟨members, missing⟩ := seeded
    have others (k') (mem : k' ∈ values.map Prod.fst) :
        given? k' (.obj (seedValue k value (members, missing)).1) = given? k' (.obj members) :=
      given?_seedValue_of_ne fun same => distinct.1 (same ▸ mem)
    rw [List.foldl_cons, ih distinct.2, seedValue_snd, List.map_cons, List.forall_mem_cons,
      and_assoc]
    refine and_congr_right fun _ => and_congr_right fun _ => forall₂_congr fun k' mem => ?_
    rw [others k' mem]

/-! ## All that is filled in -/

theorem find?_seedAll_of_some (distinct : (values.map Prod.fst).Nodup)
    (known : find? key values = some value) :
    find? key (seedAll values members).1 = some ((given? key (.obj members)).getD value) := by
  rw [seedAll, find?_foldl_seedValue distinct, known]

theorem seedAll_snd (distinct : (values.map Prod.fst).Nodup) :
    (seedAll values members).2 = false ↔
      ∀ k ∈ values.map Prod.fst, (given? k (.obj members)).isSome := by
  rw [seedAll, foldl_seedValue_snd distinct, eq_self, true_and]

theorem distinct_defaults : (defaults.map Prod.fst).Nodup := by decide

theorem distinct_retryDefaults : (RetrySettings.defaults.map Prod.fst).Nodup := by decide

/-- What a value has for the delays before any of them is filled in. -/
def delaysOf (v : Json) : Json := (v.given? "reconnect").getD (.obj [])

theorem find?_reconnect_seedAll :
    find? "reconnect" (seedAll defaults members).1 = some (delaysOf (.obj members)) :=
  find?_seedAll_of_some distinct_defaults rfl

/-- The delays are filled in where they stand in an object. -/
theorem seed_of_obj {delays : List (String × Json)} (same : delaysOf (.obj members) = .obj delays) :
    seed members =
      (Json.insert "reconnect" (.obj (seedAll RetrySettings.defaults delays).1)
          (seedAll defaults members).1,
        (seedAll defaults members).2 || (seedAll RetrySettings.defaults delays).2) := by
  have found : find? "reconnect" (seedAll defaults members).1 = some (.obj delays) := by
    rw [find?_reconnect_seedAll, same]
  simp only [seed, found]

/-- What is no object in the place of the delays is left alone. -/
theorem seed_of_not_obj (other : ∀ delays, delaysOf (.obj members) ≠ .obj delays) :
    seed members = seedAll defaults members := by
  simp only [seed, find?_reconnect_seedAll]
  split
  · next delays same => exact absurd (Option.some.inj same) (other delays)
  · rfl

/-- Another setting than the delays is the value that is given, or else the one at hand. -/
theorem find?_seed_of_some (ne : key ≠ "reconnect") (known : find? key defaults = some value) :
    find? key (seed members).1 = some ((given? key (.obj members)).getD value) := by
  cases same : delaysOf (.obj members) with
  | obj delays =>
    rw [seed_of_obj same, Json.find?_insert_of_ne ne]
    exact find?_seedAll_of_some distinct_defaults known
  | _ =>
    rw [seed_of_not_obj (by simp [same])]
    exact find?_seedAll_of_some distinct_defaults known

theorem find?_reconnect_seed :
    find? "reconnect" (seed members).1 = some (match delaysOf (.obj members) with
      | .obj delays => .obj (seedAll RetrySettings.defaults delays).1
      | other => other) := by
  cases same : delaysOf (.obj members) with
  | obj delays => rw [seed_of_obj same, Json.find?_insert_self]
  | _ =>
    rw [seed_of_not_obj (by simp [same]), find?_reconnect_seedAll, same]

/-! ## The settings in a text -/

theorem given?_membersOf (key : String) (v : Json) :
    given? key (.obj (membersOf v).1) = given? key v := by
  cases v <;> rfl

variable {v : Json} {s : Settings} {r : RetrySettings} {text : String} {stale : Bool}

theorem ofText_eq_ok_iff :
    ofText text = .ok (s, stale) ↔ ∃ v, value? text = some v ∧
      decode (.obj (seed (membersOf v).1).1) = .ok s ∧
        ((membersOf v).2 || (seed (membersOf v).1).2) = stale := by
  simp only [ofText]
  cases value? text with
  | none => simp
  | some v => cases read : decode (.obj (seed (membersOf v).1).1) <;> simp [read]

theorem delaysOf_membersOf (v : Json) : delaysOf (.obj (membersOf v).1) = delaysOf v := by
  rw [delaysOf, delaysOf, given?_membersOf]

theorem eq_of_field?_seed {w : Json} (ne : key ≠ "reconnect")
    (known : find? key defaults = some value)
    (there : (Json.obj (seed (membersOf v).1).1).field? key = some w) :
    w = (given? key v).getD value := by
  rw [Json.field?, find?_seed_of_some ne known, given?_membersOf] at there
  exact (Option.some.inj there).symm

theorem eq_of_field?_seedAll {w : Json} (known : find? key RetrySettings.defaults = some value)
    (there : (Json.obj (seedAll RetrySettings.defaults members).1).field? key = some w) :
    w = (given? key (.obj members)).getD value := by
  rw [Json.field?, find?_seedAll_of_some distinct_retryDefaults known] at there
  exact (Option.some.inj there).symm

/-- What is given for a delay is given by what stands there before delays are filled in. -/
theorem bind_given?_delays (key : String) (v : Json) :
    (v.given? "reconnect").bind (given? key) = given? key (delaysOf v) := by
  rw [delaysOf]
  cases v.given? "reconnect" <;> rfl

/-- Delays that are read stood in an object, or in a list. -/
theorem delaysOf_of_decode (read : decode (.obj (seed (membersOf v).1).1) = .ok s) :
    (∃ delays, delaysOf v = .obj delays ∧
        RetrySettings.decodeFields (.obj (seedAll RetrySettings.defaults delays).1) = .ok s.retry) ∨
      ∃ items, v.field? "reconnect" = some (.arr items) := by
  obtain ⟨⟨w, there, retry⟩, _, _⟩ := decode_eq_ok_iff.1 read
  rw [Json.field?, find?_reconnect_seed, delaysOf_membersOf] at there
  cases same : delaysOf v with
  | obj delays =>
    rw [same] at there
    cases there
    exact Or.inl ⟨delays, rfl, retry⟩
  | arr items =>
    -- The default is no list, so this one was given.
    refine Or.inr ⟨items, ?_⟩
    rw [delaysOf, given?] at same
    cases found : v.field? "reconnect" with
    | none => simp [found] at same
    | some w => cases w <;> simp_all
  | _ =>
    rw [same] at there
    cases there
    cases retry

/-- **Settings that are read follow what was given**, as long as that has no list for the
delays. -/
theorem follows_of_decode (read : decode (.obj (seed (membersOf v).1).1) = .ok s)
    (noList : ∀ items, v.field? "reconnect" ≠ some (.arr items)) : s.Follows v := by
  obtain ⟨_, timeout, url⟩ := decode_eq_ok_iff.1 read
  have urlThere := holds_text_iff.1 url
  have timeoutThere := (holds_unsigned_iff.1 timeout).1
  rcases delaysOf_of_decode read with ⟨delays, same, retry⟩ | ⟨items, list⟩
  · obtain ⟨base, cap, jitter⟩ := RetrySettings.decodeFields_eq_ok_iff.1 retry
    have baseThere := (holds_unsigned_iff.1 base).1
    have capThere := (holds_unsigned_iff.1 cap).1
    have jitterThere := (holds_unsigned_iff.1 jitter).1
    refine ⟨eq_of_field?_seed (by decide) rfl urlThere, ?_, ?_, ?_,
      eq_of_field?_seed (by decide) rfl timeoutThere⟩
    · rw [bind_given?_delays, same]
      exact eq_of_field?_seedAll rfl baseThere
    · rw [bind_given?_delays, same]
      exact eq_of_field?_seedAll rfl capThere
    · rw [bind_given?_delays, same]
      exact eq_of_field?_seedAll rfl jitterThere
  · exact absurd list (noList items)

/-! ## Settings in their own text -/

theorem sorted_toJson (s : Settings) :
    s.toJson.sorted = .obj [("reconnect", s.retry.toJson),
      ("request_timeout_secs", .ofNat s.timeoutSeconds), ("server_url", .str s.serverUrl)] := by
  -- the delays already stand in the order of their keys, the settings do not
  have delays : s.retry.toJson.sorted = s.retry.toJson := by
    simp (disch := decide) only [RetrySettings.toJson, Json.ofNat, Json.sorted, Json.sortedMembers,
      Json.ofMembers, List.foldl_cons, List.foldl_nil, Json.insert, if_neg]
  simp (disch := decide) only [toJson, delays, Json.ofNat, Json.sorted, Json.sortedMembers,
    Json.ofMembers, List.foldl_cons, List.foldl_nil, Json.insert, if_pos, if_neg]

theorem fitsWord_of_lt {n : Nat} (small : n < Nat.pow 2 64) : Json.FitsWord n := by
  have limit : Json.Numeral.wordLimit = Nat.pow 2 64 := rfl
  rw [Json.FitsWord, limit]
  omega

theorem legible_toJson (fits : s.Fits) : Json.Legible Json.maxNesting s.toJson := by
  obtain ⟨⟨base, cap, jitter⟩, timeout⟩ := fits
  have delays : Json.Legible (Json.maxNesting - 1) s.retry.toJson := by
    simp [RetrySettings.toJson, Json.Legible, Json.LegibleMembers, Json.maxNesting, Json.ofNat,
      fitsWord_of_lt base, fitsWord_of_lt cap, fitsWord_of_lt jitter]
  have number : Json.Legible (Json.maxNesting - 1) (.ofNat s.timeoutSeconds) :=
    fitsWord_of_lt timeout
  simp only [toJson, Json.Legible, Json.LegibleMembers, delays, number, and_true]
  decide

theorem isBlankText_text (s : Settings) : Text.isBlankText s.text = false :=
  Text.isBlankText_of_head (Json.toList_renderPrettyAt_obj 0 _ _) (by decide)

theorem value?_text (fits : s.Fits) : value? s.text = some s.toJson.sorted := by
  rw [value?, isBlankText_text, if_neg Bool.false_ne_true]
  exact Json.parse?_renderPretty (legible_toJson fits)

/-- Nothing is to be filled in where settings were written. -/
theorem seed_of_sorted {members : List (String × Json)} (same : s.toJson.sorted = .obj members) :
    seed members = (members, false) := by
  rw [sorted_toJson] at same
  cases same
  simp [seed, seedAll, defaults, RetrySettings.defaults, seedValue, find?, Json.insert,
    RetrySettings.toJson, Json.ofNat]

theorem decode_sorted (fits : s.Fits) : decode s.toJson.sorted = .ok s := by
  obtain ⟨⟨base, cap, jitter⟩, timeout⟩ := fits
  have delays : RetrySettings.decode s.retry.toJson = .ok s.retry :=
    RetrySettings.decodeFields_eq_ok_iff.2 ⟨holds_unsigned_iff.2 ⟨rfl, base⟩,
      holds_unsigned_iff.2 ⟨rfl, cap⟩, holds_unsigned_iff.2 ⟨rfl, jitter⟩⟩
  rw [sorted_toJson]
  exact decode_eq_ok_iff.2 ⟨⟨_, rfl, delays⟩, holds_unsigned_iff.2 ⟨rfl, timeout⟩,
    holds_text_iff.2 rfl⟩

/-- **Settings are read back from their own text**, which lacks nothing. -/
theorem ofText_text (fits : s.Fits) : ofText s.text = .ok (s, false) := by
  obtain ⟨members, same⟩ : ∃ members, s.toJson.sorted = .obj members := ⟨_, sorted_toJson s⟩
  have spelled := value?_text fits
  have read := decode_sorted fits
  have whole := seed_of_sorted same
  rw [same] at spelled read
  refine ofText_eq_ok_iff.2 ⟨_, spelled, ?_, ?_⟩
  · show decode (.obj (seed members).1) = .ok s
    rw [whole, read]
  · show (false || (seed members).2) = false
    rw [whole]
    rfl

end Settings

end VoiceTicket
