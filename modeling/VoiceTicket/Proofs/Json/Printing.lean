/-
  What is written is read back.

  1. **Specification** — `parse?_renderPretty` and `parse?_render`: the text of a value, with lines
     or without, is parsed as that value, with the keys of its objects in order (`Json.sorted`), as
     long as it can be written at all without loss (`Json.Legible`): no doubles, integers of 64
     bits, no more arrays and objects inside one another than a reader takes.

  2. **Crux** — the printers put blanks only where the grammar allows them, so that each of their
     pieces spells what it was written for; the recursion is the printer's own.

  3. **Bridge** — an object with distinct keys has under each of them what it had before it was
     written (`field?_sorted`), in whatever order its members stood.
-/
import VoiceTicket.Proofs.Json.Spelling

namespace VoiceTicket.Json

open Reader

/-! ## Values that can be read back -/

mutual

/-- The value as it is read back: the keys of its objects in increasing order, each of them once. -/
def sorted : Json → Json
  | .arr xs => .arr (sortedItems xs)
  | .obj ms => ofMembers (sortedMembers ms)
  | v => v

/-- The items of an array as they are read back. -/
def sortedItems : List Json → List Json
  | [] => []
  | x :: xs => sorted x :: sortedItems xs

/-- The members of an object as they are read back one by one. -/
def sortedMembers : List (String × Json) → List (String × Json)
  | [] => []
  | (k, v) :: ms => (k, sorted v) :: sortedMembers ms

end

mutual

/-- Whether a value can be read back where some arrays and objects may still be opened. -/
def Legible (nesting : Nat) : Json → Prop
  | .num (.int i) => FitsWord i
  | .num (.float _) => False
  | .arr xs => 0 < nesting ∧ LegibleItems (nesting - 1) xs
  | .obj ms => 0 < nesting ∧ LegibleMembers (nesting - 1) ms
  | _ => True

/-- Whether the items of an array can be read back. -/
def LegibleItems (nesting : Nat) : List Json → Prop
  | [] => True
  | x :: xs => Legible nesting x ∧ LegibleItems nesting xs

/-- Whether the members of an object can be read back. -/
def LegibleMembers (nesting : Nat) : List (String × Json) → Prop
  | [] => True
  | (_, v) :: ms => Legible nesting v ∧ LegibleMembers nesting ms

end

/-! ## The pretty form -/

theorem blank_lineBreak (level : Nat) : Blank (lineBreak level).toList := by
  intro c hc
  rw [lineBreak, String.toList_ofList] at hc
  rcases List.mem_cons.1 hc with rfl | blank
  · rfl
  · obtain ⟨_, rfl⟩ := List.mem_replicate.1 blank
    rfl

variable (level : Nat)

theorem toList_renderPrettyAt_arr (x : Json) (xs : List Json) :
    (renderPrettyAt level (.arr (x :: xs))).toList =
      '[' :: ((renderPrettyItems (level + 1) (x :: xs)).toList ++ (lineBreak level).toList
        ++ [']']) := by
  simp [renderPrettyAt]

theorem toList_renderPrettyAt_obj (m : String × Json) (ms : List (String × Json)) :
    (renderPrettyAt level (.obj (m :: ms))).toList =
      '\x7b' :: ((renderPrettyMembers (level + 1) (m :: ms)).toList ++ (lineBreak level).toList
        ++ ['\x7d']) := by
  simp [renderPrettyAt]

theorem toList_renderPrettyItems_cons (x y : Json) (ys : List Json) :
    (renderPrettyItems level (x :: y :: ys)).toList =
      (lineBreak level).toList ++ ((renderPrettyAt level x).toList ++
        ([] ++ ',' :: (renderPrettyItems level (y :: ys)).toList)) := by
  simp [renderPrettyItems]

theorem toList_renderPrettyMembers_singleton (k : String) (v : Json) :
    (renderPrettyMembers level [(k, v)]).toList =
      (lineBreak level).toList ++ ((quote k).toList ++ ([] ++ ':' :: ([' '] ++
        (renderPrettyAt level v).toList))) := by
  simp [renderPrettyMembers]

theorem toList_renderPrettyMembers_cons (k : String) (v : Json) (m : String × Json)
    (ms : List (String × Json)) :
    (renderPrettyMembers level ((k, v) :: m :: ms)).toList =
      (lineBreak level).toList ++ (((quote k).toList ++ ([] ++ ':' :: ([' '] ++
        (renderPrettyAt level v).toList))) ++
          ([] ++ ',' :: (renderPrettyMembers level (m :: ms)).toList)) := by
  simp [renderPrettyMembers]

theorem blank_space : Blank [' '] := by
  intro c hc
  rw [List.mem_singleton.1 hc]
  rfl

mutual

/-- **The pretty form of a value spells it.** -/
theorem spells_renderPrettyAt (level : Nat) :
    ∀ (v : Json) (nesting : Nat), Legible nesting v →
      Spells (value nesting) v.sorted (renderPrettyAt level v).toList
  | .null, nesting, _ => spells_null nesting
  | .bool true, nesting, _ => spells_true nesting
  | .bool false, nesting, _ => spells_false nesting
  | .num (.int i), nesting, h => by
    rw [Legible] at h
    exact spells_int nesting h
  | .num (.float x), nesting, h => by
    rw [Legible] at h
    exact h.elim
  | .str s, nesting, _ => spells_str nesting s
  | .arr _, 0, h => by
    rw [Legible] at h
    exact absurd h.1 (Nat.lt_irrefl 0)
  | .arr xs, nesting + 1, h => by
    rw [Legible] at h
    have items := lists_renderPrettyItems (level + 1) xs nesting h.2 (blank_lineBreak level)
    cases xs with
    | nil => exact spells_arr_nil nesting
    | cons x xs =>
      rw [toList_renderPrettyAt_arr]
      exact (items (List.cons_ne_nil x xs)).array
  | .obj _, 0, h => by
    rw [Legible] at h
    exact absurd h.1 (Nat.lt_irrefl 0)
  | .obj ms, nesting + 1, h => by
    rw [Legible] at h
    have members := lists_renderPrettyMembers (level + 1) ms nesting h.2 (blank_lineBreak level)
    cases ms with
    | nil => exact spells_obj_nil nesting
    | cons m ms =>
      rw [toList_renderPrettyAt_obj]
      exact (members (List.cons_ne_nil m ms)).object

/-- The items of an array, with the line break behind the last one. -/
theorem lists_renderPrettyItems (level : Nat) :
    ∀ (xs : List Json) (nesting : Nat), LegibleItems nesting xs → ∀ {b : List Char}, Blank b →
      xs ≠ [] →
        Lists (value nesting) ']' (sortedItems xs) ((renderPrettyItems level xs).toList ++ b)
  | [], _, _, _, _, nonempty => absurd rfl nonempty
  | [x], nesting, h, b, after, _ => by
    rw [LegibleItems] at h
    have only := spells_renderPrettyAt level x nesting h.1
    rw [renderPrettyItems, String.toList_append, List.append_assoc]
    exact Lists.one only (blank_lineBreak level) after (Or.inl rfl)
  | x :: y :: ys, nesting, h, b, after, _ => by
    rw [LegibleItems] at h
    have first := spells_renderPrettyAt level x nesting h.1
    have others := lists_renderPrettyItems level (y :: ys) nesting h.2 after (List.cons_ne_nil y ys)
    have all := Lists.cons first (blank_lineBreak level) blank_nil others
    simpa only [sortedItems, toList_renderPrettyItems_cons, List.append_assoc,
      List.cons_append] using all

/-- The members of an object, with the line break behind the last one. -/
theorem lists_renderPrettyMembers (level : Nat) :
    ∀ (ms : List (String × Json)) (nesting : Nat), LegibleMembers nesting ms →
      ∀ {b : List Char}, Blank b → ms ≠ [] →
        Lists (member string (value nesting)) '\x7d' (sortedMembers ms)
          ((renderPrettyMembers level ms).toList ++ b)
  | [], _, _, _, _, nonempty => absurd rfl nonempty
  | [(k, v)], nesting, h, b, after, _ => by
    rw [LegibleMembers] at h
    have only := spells_renderPrettyAt level v nesting h.1
    have member := (spells_quote k).member only blank_nil blank_space
    rw [toList_renderPrettyMembers_singleton, List.append_assoc]
    exact Lists.one member (blank_lineBreak level) after (Or.inr rfl)
  | (k, v) :: m :: ms, nesting, h, b, after, _ => by
    rw [LegibleMembers] at h
    have only := spells_renderPrettyAt level v nesting h.1
    have first := (spells_quote k).member only blank_nil blank_space
    have others :=
      lists_renderPrettyMembers level (m :: ms) nesting h.2 after (List.cons_ne_nil m ms)
    have all := Lists.cons first (blank_lineBreak level) blank_nil others
    simpa only [sortedMembers, toList_renderPrettyMembers_cons, List.append_assoc,
      List.cons_append] using all

end

/-- **What is written is read back.** -/
theorem parse?_renderPretty {v : Json} (h : Legible maxNesting v) :
    parse? v.renderPretty = some v.sorted :=
  (spells_renderPrettyAt 0 v maxNesting h).parse?

/-! ## The compact form -/

theorem toList_render_arr (xs : List Json) :
    (render (.arr xs)).toList = '[' :: ((renderItems xs).toList ++ [']']) := by
  simp [render]

theorem toList_render_obj (ms : List (String × Json)) :
    (render (.obj ms)).toList = '\x7b' :: ((renderMembers ms).toList ++ ['\x7d']) := by
  simp [render]

theorem toList_renderItems_cons (x y : Json) (ys : List Json) :
    (renderItems (x :: y :: ys)).toList =
      (render x).toList ++ ',' :: (renderItems (y :: ys)).toList := by
  simp [renderItems]

theorem toList_renderMembers_singleton (k : String) (v : Json) :
    (renderMembers [(k, v)]).toList = (quote k).toList ++ ':' :: (render v).toList := by
  simp [renderMembers]

theorem toList_renderMembers_cons (k : String) (v : Json) (m : String × Json)
    (ms : List (String × Json)) :
    (renderMembers ((k, v) :: m :: ms)).toList =
      ((quote k).toList ++ ':' :: (render v).toList) ++
        ',' :: (renderMembers (m :: ms)).toList := by
  simp [renderMembers]

mutual

/-- **The compact form of a value spells it.** -/
theorem spells_render :
    ∀ (v : Json) (nesting : Nat), Legible nesting v →
      Spells (value nesting) v.sorted (render v).toList
  | .null, nesting, _ => spells_null nesting
  | .bool true, nesting, _ => spells_true nesting
  | .bool false, nesting, _ => spells_false nesting
  | .num (.int i), nesting, h => by
    rw [Legible] at h
    exact spells_int nesting h
  | .num (.float x), nesting, h => by
    rw [Legible] at h
    exact h.elim
  | .str s, nesting, _ => spells_str nesting s
  | .arr _, 0, h => by
    rw [Legible] at h
    exact absurd h.1 (Nat.lt_irrefl 0)
  | .arr xs, nesting + 1, h => by
    rw [Legible] at h
    have items := lists_renderItems xs nesting h.2
    cases xs with
    | nil => exact spells_arr_nil nesting
    | cons x xs =>
      rw [toList_render_arr]
      exact (items (List.cons_ne_nil x xs)).array
  | .obj _, 0, h => by
    rw [Legible] at h
    exact absurd h.1 (Nat.lt_irrefl 0)
  | .obj ms, nesting + 1, h => by
    rw [Legible] at h
    have members := lists_renderMembers ms nesting h.2
    cases ms with
    | nil => exact spells_obj_nil nesting
    | cons m ms =>
      rw [toList_render_obj]
      exact (members (List.cons_ne_nil m ms)).object

/-- The items of an array without blanks. -/
theorem lists_renderItems :
    ∀ (xs : List Json) (nesting : Nat), LegibleItems nesting xs → xs ≠ [] →
      Lists (value nesting) ']' (sortedItems xs) (renderItems xs).toList
  | [], _, _, nonempty => absurd rfl nonempty
  | [x], nesting, h, _ => by
    rw [LegibleItems] at h
    have only := spells_render x nesting h.1
    have all := Lists.one only blank_nil blank_nil (Or.inl rfl)
    simpa only [sortedItems, renderItems, List.nil_append, List.append_nil] using all
  | x :: y :: ys, nesting, h, _ => by
    rw [LegibleItems] at h
    have first := spells_render x nesting h.1
    have others := lists_renderItems (y :: ys) nesting h.2 (List.cons_ne_nil y ys)
    have all := Lists.cons first blank_nil blank_nil others
    simpa only [sortedItems, toList_renderItems_cons, List.nil_append] using all

/-- The members of an object without blanks. -/
theorem lists_renderMembers :
    ∀ (ms : List (String × Json)) (nesting : Nat), LegibleMembers nesting ms → ms ≠ [] →
      Lists (member string (value nesting)) '\x7d' (sortedMembers ms) (renderMembers ms).toList
  | [], _, _, nonempty => absurd rfl nonempty
  | [(k, v)], nesting, h, _ => by
    rw [LegibleMembers] at h
    have only := spells_render v nesting h.1
    have member := (spells_quote k).member only blank_nil blank_nil
    have all := Lists.one member blank_nil blank_nil (Or.inr rfl)
    simpa only [sortedMembers, toList_renderMembers_singleton, List.nil_append,
      List.append_nil] using all
  | (k, v) :: m :: ms, nesting, h, _ => by
    rw [LegibleMembers] at h
    have only := spells_render v nesting h.1
    have first := (spells_quote k).member only blank_nil blank_nil
    have others := lists_renderMembers (m :: ms) nesting h.2 (List.cons_ne_nil m ms)
    have all := Lists.cons first blank_nil blank_nil others
    simpa only [sortedMembers, toList_renderMembers_cons, List.nil_append] using all

end

/-- **What is written on one line is read back.** -/
theorem parse?_render {v : Json} (h : Legible maxNesting v) : parse? v.render = some v.sorted :=
  (spells_render v maxNesting h).parse?

/-! ## Fields of what is read back -/

theorem find?_of_not_mem {key : String} {members : List (String × Json)}
    (new : key ∉ members.map Prod.fst) : find? key members = none := by
  induction members with
  | nil => rfl
  | cons m members ih =>
    rw [List.map_cons, List.mem_cons, not_or] at new
    rw [find?, if_neg fun same => new.1 same.symm]
    exact ih new.2

/-- Under distinct keys each value is found that stands there. -/
theorem find?_of_mem {key : String} {value : Json} {members : List (String × Json)}
    (distinct : (members.map Prod.fst).Nodup) (mem : (key, value) ∈ members) :
    find? key members = some value := by
  induction members with
  | nil => cases mem
  | cons m members ih =>
    rw [List.map_cons, List.nodup_cons] at distinct
    rcases List.mem_cons.1 mem with rfl | mem
    · exact if_pos rfl
    · have later : key ∈ members.map Prod.fst := List.mem_map.2 ⟨_, mem, rfl⟩
      have other : m.1 ≠ key := by
        rintro rfl
        exact distinct.1 later
      rw [find?, if_neg other]
      exact ih distinct.2 mem

/-- Sorting members with distinct keys changes nothing about what is found under a key. -/
theorem find?_foldl_insert {key : String} {members : List (String × Json)}
    (distinct : (members.map Prod.fst).Nodup) (before : List (String × Json)) :
    find? key (members.foldl (fun acc m => insert m.1 m.2 acc) before) =
      (find? key members).or (find? key before) := by
  induction members generalizing before with
  | nil => rfl
  | cons m members ih =>
    obtain ⟨k, v⟩ := m
    rw [List.map_cons, List.nodup_cons] at distinct
    rw [List.foldl_cons, ih distinct.2, find?]
    by_cases same : k = key
    · subst same
      rw [find?_of_not_mem distinct.1, find?_insert_self, if_pos rfl]
      rfl
    · rw [find?_insert_of_ne (Ne.symm same), if_neg same]

theorem map_fst_sortedMembers (ms : List (String × Json)) :
    (sortedMembers ms).map Prod.fst = ms.map Prod.fst := by
  induction ms with
  | nil => rfl
  | cons m ms ih =>
    obtain ⟨k, v⟩ := m
    rw [sortedMembers, List.map_cons, List.map_cons, ih]

theorem find?_sortedMembers (key : String) (ms : List (String × Json)) :
    find? key (sortedMembers ms) = (find? key ms).map sorted := by
  induction ms with
  | nil => rfl
  | cons m ms ih =>
    obtain ⟨k, v⟩ := m
    rw [sortedMembers, find?, find?, ih]
    by_cases same : k = key
    · rw [if_pos same, if_pos same, Option.map_some]
    · rw [if_neg same, if_neg same]

/-- **An object that is read back has its fields**, if no key stands in it twice. -/
theorem field?_sorted {ms : List (String × Json)} (distinct : (ms.map Prod.fst).Nodup)
    (key : String) : (Json.obj ms).sorted.field? key = (find? key ms).map sorted := by
  have keys : ((sortedMembers ms).map Prod.fst).Nodup := by
    rw [map_fst_sortedMembers]
    exact distinct
  rw [sorted, ofMembers, field?, find?_foldl_insert keys, find?_sortedMembers]
  exact Option.or_none

end VoiceTicket.Json
