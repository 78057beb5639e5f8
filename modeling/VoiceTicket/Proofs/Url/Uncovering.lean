/-
  Whether a base URL that was kept is still the one that was given.

  1. **Data** — keeping a base URL `Uncovers` the margin if it takes slashes off the end of it, and
     what is then the end is a blank or a control character of its path.

  2. **Specification** — `kept_again_iff`: what was kept is always accepted once more.  It is kept as
     it is exactly if it does not end in a blank, and it leads to the channel of the base URL that
     was given exactly if keeping that uncovered nothing.

  3. **Crux** — in front of a slash the margin is a part of the path, at the end of a text it does
     not count.  It makes the path longer (`Url.Parser.lt_of_padded`), and the channel keeps it,
     since a path with the margin at its end has no empty segment there
     (`Url.Parser.dropEmptyEnd_padded`).

  4. **Bridge** — `exists_apart_kept`: the two base URLs have one authority, and differ in the margin
     and the slashes behind what both have of the rest.
-/
import VoiceTicket.Proofs.Settings.Calls
import VoiceTicket.Proofs.Url.Bases
import VoiceTicket.Proofs.Url.Paths

namespace VoiceTicket

open Url.Parser

/-- What is kept of a base URL ends in something of the margin that slashes stood behind: they were
the end of the path, with neither query nor fragment, and were lost. -/
structure Uncovers (text kept : String) : Prop where
  lost : kept ≠ Text.trim text
  unmarked : Unmarked kept.toList
  ends : ∃ c, (kept.toList.filter (!isSkipped ·)).getLast? = some c ∧ Url.isMargin c = true

/-! ## The path below which the channel is -/

/-- Base URLs with one authority have the same channel exactly if their paths are the same but for
the empty segments at their ends. -/
theorem ofServer_eq_iff {scheme ws : String} {a : Url.Authority} {rest rest' : List Char}
    {parts parts' : List String}
    (path : pathAfterAuthority .special (Tail.of rest).path = .segments parts)
    (path' : pathAfterAuthority .special (Tail.of rest').path = .segments parts') :
    Channel.ofServer (followedBy scheme rest a) ws =
        Channel.ofServer (followedBy scheme rest' a) ws ↔
      Channel.dropEmptyEnd parts = Channel.dropEmptyEnd parts' := by
  rw [ofServer_followedBy path, ofServer_followedBy path']
  constructor
  · intro same
    injection same with _ _ paths
    injection paths with segments
    exact List.append_cancel_right segments
  · intro same
    rw [same]

/-- **What uncovering does to a path.**  With slashes behind it, and the margin in front of these, it
is the same exactly if there is no margin, or if that is part of a query or a fragment. -/
theorem below_eq_iff {rest pad : List Char} {n : Nat}
    (stops : Stops (rest ++ (pad ++ List.replicate n '/'))) (all : ∀ c ∈ pad, Url.isMargin c = true)
    {parts parts' : List String}
    (path : pathAfterAuthority .special (Tail.of rest).path = .segments parts)
    (path' : pathAfterAuthority .special
      (Tail.of (rest ++ (pad ++ List.replicate n '/'))).path = .segments parts') :
    Channel.dropEmptyEnd parts = Channel.dropEmptyEnd parts' ↔ ¬ (Unmarked rest ∧ pad ≠ []) := by
  by_cases unmarked : Unmarked rest
  · have padded := unmarked_append.2 ⟨unmarked, unmarked_of_margin all⟩
    have whole := unmarked_append.2 ⟨padded, unmarked_slashes n⟩
    rw [← List.append_assoc] at stops path'
    rw [whole.path] at path'
    rw [unmarked.path] at path
    have long := path_of_channel padded stops.of_append n path'
    have bare : rest ++ List.replicate 0 '/' = rest := List.append_nil rest
    by_cases none' : pad = []
    · subst none'
      rw [List.append_nil] at long
      have short := path_of_channel unmarked stops.of_append.of_append 0 (by rw [bare]; exact path)
      rw [short, long]
      exact ⟨fun _ both => both.2 rfl, fun _ => rfl⟩
    · -- No authority ends where the margin begins, so there is a path in front of it.
      have some : rest ≠ [] := by
        rintro rfl
        obtain ⟨c, cs, rfl⟩ := List.exists_cons_of_ne_nil none'
        have outer := endsAuthority_of_margin (all c List.mem_cons_self)
        rw [stops c rfl] at outer
        cases outer
      have less := lt_of_padded unmarked stops.of_append.of_append some none' all path
      rw [long, dropEmptyEnd_padded some none' all]
      constructor
      · intro same
        rw [same] at less
        exact absurd less (Nat.lt_irrefl _)
      · exact fun covered => absurd ⟨unmarked, none'⟩ covered
  · rw [path_append_of_marked unmarked, path] at path'
    cases path'
    exact ⟨fun _ both => unmarked both.1, fun _ => rfl⟩

/-! ## Keeping a base URL once more -/

namespace Channel

variable {text kept : String}

/-- The channel of a base URL does not depend on the blanks around it. -/
theorem url_trim (base : String) : url (Text.trim base) = url base := by
  rw [url, url, Text.trim_trim]

/-- What is kept has the channel of what was given exactly if nothing was uncovered. -/
theorem url_kept_iff (accepted : serverUrl text = .ok kept) :
    url kept = url text ↔ ¬ Uncovers text kept := by
  by_cases lost : kept = Text.trim text
  · rw [lost, url_trim]
    exact iff_of_true rfl fun uncovers => uncovers.lost rfl
  · obtain ⟨scheme, ws, front, host, rest, pad, n, a, known, apart, apart', margin⟩ :=
      exists_apart_kept accepted lost
    obtain ⟨parts, path⟩ := exists_parts (Tail.of rest).path
    obtain ⟨parts', path'⟩ :=
      exists_parts (Tail.of (rest ++ (pad ++ List.replicate n '/'))).path
    obtain ⟨c, -, mem, solid, -⟩ := apart.last
    obtain ⟨visible, unpadded⟩ := Bool.or_eq_false_iff.1 solid
    have unmarked : Unmarked kept.toList ↔ Unmarked rest :=
      apart.unmarked_iff_of_counted apart.clean fun _ solid _ => mem_clean_trim kept solid
    have uncovers : Uncovers text kept ↔ Unmarked rest ∧ pad ≠ [] := by
      rw [← unmarked, margin.some_iff ((Text.mem_trimChars visible).1 mem) unpadded]
      exact ⟨fun all => ⟨all.unmarked, all.ends⟩, fun all => ⟨lost, all.1, all.2⟩⟩
    rw [apart.channel known, apart'.channel known, uncovers,
      ← below_eq_iff apart'.stops margin.all path path', ← ofServer_eq_iff path path']
    exact ⟨Except.ok.inj, congrArg Except.ok⟩

/-- What is kept is accepted once more. -/
theorem serverUrl_kept (accepted : serverUrl text = .ok kept) :
    serverUrl kept = .ok (Text.trimEndSlashes (Text.trim kept)) := by
  obtain ⟨scheme, ws, front, host, rest, a, known, apart⟩ := apart_of_serverUrl accepted
  rw [serverUrl, apart.channel known]

/-- What is kept can be edited, and since it is not blank it can be used as an override. -/
theorem accepted?_kept (accepted : serverUrl text = .ok kept) {call : Config.Call}
    (again : call = .edit kept ∨ call = .override (some kept)) :
    call.accepted? = some (Text.trimEndSlashes (Text.trim kept)) := by
  have found := serverUrl_kept accepted
  obtain ⟨scheme, ws, front, host, rest, a, -, apart⟩ := apart_of_serverUrl accepted
  have visible : Text.isBlankText kept = false := by
    obtain ⟨c, -, mem, -⟩ := apart.last
    rw [Bool.eq_false_iff]
    intro blank
    rw [Text.isBlankText, String.isEmpty_iff] at blank
    rw [← Text.toList_trim, blank] at mem
    cases mem
  rcases again with rfl | rfl
  · rw [Config.Call.accepted?, found]
    rfl
  · rw [Config.Call.accepted?, visible, if_neg Bool.false_ne_true, found]
    rfl

/-- What is kept is kept as it is exactly if it does not end in a blank. -/
theorem kept_eq_iff (accepted : serverUrl text = .ok kept) :
    Text.trimEndSlashes (Text.trim kept) = kept ↔
      ∀ c ∈ kept.toList.getLast?, Text.isBlank c = false := by
  have same := (serverUrl_eq_ok_iff.1 accepted).2
  have trimmed : Text.trimChars kept.toList = Text.dropEndWhile Text.isBlank kept.toList := by
    rw [same, Text.trimChars_dropEndWhile]
  have closed : Text.dropEndWhile (· == '/') kept.toList = kept.toList := by
    rw [same, Text.dropEndWhile_dropEndWhile]
  rw [← String.toList_inj, Text.trimEndSlashes, Text.toList_trimEnd, Text.toList_trim, trimmed,
    ← Text.dropEndWhile_eq_self_iff]
  constructor
  · exact Text.dropEndWhile_of_dropEndWhile
  · intro visible
    rw [visible, closed]

/-- **A base URL that is kept once more.**  It is always accepted, also as an edit or an override of
the settings; it is kept as it is exactly if it does not end in a blank; and it has the channel that
it had when it was given exactly if keeping it uncovered nothing. -/
theorem kept_again_iff (accepted : serverUrl text = .ok kept) :
    ∃ again, serverUrl kept = .ok again ∧
      (∀ (config : Config) (place : Place) (call : Config.Call),
        call = .edit kept ∨ call = .override (some kept) →
          (config.call place call).1.serverUrl = again) ∧
      (again = kept ↔ ∀ c ∈ kept.toList.getLast?, Text.isBlank c = false) ∧
      (url kept = url text ↔ ¬ Uncovers text kept) := by
  refine ⟨_, serverUrl_kept accepted, fun config place call again => ?_, kept_eq_iff accepted,
    url_kept_iff accepted⟩
  rw [Config.serverUrl_call, accepted?_kept accepted again]
  rfl

/-- A tab at the end of what is kept goes when that is kept once more, but it never counted. -/
theorem kept_again_tabbed :
    serverUrl "http://localhost:8000/a\t/" = .ok "http://localhost:8000/a\t" ∧
      serverUrl "http://localhost:8000/a\t" ≠ .ok "http://localhost:8000/a\t" ∧
      url "http://localhost:8000/a\t" = url "http://localhost:8000/a\t/" := by
  have accepted : serverUrl "http://localhost:8000/a\t/" = .ok "http://localhost:8000/a\t" :=
    toOption_eq_some.1 (by decide +kernel)
  have last : "http://localhost:8000/a\t".toList.getLast? = some '\t' := by decide +kernel
  have counted : ("http://localhost:8000/a\t".toList.filter (!isSkipped ·)).getLast? = some 'a' := by
    decide +kernel
  obtain ⟨again, found, -, same, channel⟩ := kept_again_iff accepted
  refine ⟨accepted, fun stays => ?_, channel.2 fun uncovers => ?_⟩
  · rw [found] at stays
    have visible := same.1 (Except.ok.inj stays) '\t' last
    cases visible
  · obtain ⟨c, ends, margin⟩ := uncovers.ends
    rw [counted] at ends
    cases ends
    cases margin

/-- A blank in front of the last slash is a part of the path.  Of what is kept it is the end, and goes
wherever that is used. -/
theorem not_kept_again_blank :
    serverUrl "http://pipeline.test:8000/a /" = .ok "http://pipeline.test:8000/a " ∧
      serverUrl "http://pipeline.test:8000/a " ≠ .ok "http://pipeline.test:8000/a " ∧
      url "http://pipeline.test:8000/a " ≠ url "http://pipeline.test:8000/a /" := by
  have accepted : serverUrl "http://pipeline.test:8000/a /" = .ok "http://pipeline.test:8000/a " :=
    toOption_eq_some.1 (by decide +kernel)
  have shorter : serverUrl "http://pipeline.test:8000/a " = .ok "http://pipeline.test:8000/a" :=
    toOption_eq_some.1 (by decide +kernel)
  have given : (url "http://pipeline.test:8000/a /").toOption.map (·.path) =
      some (.segments ["a%20", "ws", "status"]) := by
    decide +kernel
  have found : (url "http://pipeline.test:8000/a ").toOption.map (·.path) =
      some (.segments ["a", "ws", "status"]) := by
    decide +kernel
  refine ⟨accepted, fun again => ?_, fun same => ?_⟩
  · rw [shorter] at again
    exact absurd (Except.ok.inj again) (by decide)
  · rw [same, given] at found
    exact absurd found (by decide)

end Channel

end VoiceTicket
