/-
  No host ends in a margin.

  1. **Data** — a character is of the margin (`isMargin`) if it may stand around a base URL without
     being part of it: the blanks that are trimmed, and what a URL drops at its ends.

  2. **Specification** — `last_of_authority`: what stands between the slashes and the path of a URL
     never ends in a character of the margin, be it the end of a port or of a host.

  3. **Crux** — the way of such a character through a domain.  It is no part of a percent encoded
     byte and starts a character afresh (`getLast?_pieces`); it stands for itself, for a blank or
     for nothing that a domain can hold (`exists_padding_of_image?`); and what padding there is
     after that is composed with nothing (`mem_compose`) and copied by Punycode, up to where it is
     denied.

  4. **Bridge** — what the tables say of the margin is read off them in one pass each
     (`ignored_apart`, `permitted_apart`, `mappings_marginal`, `compositions_above`).
-/
import VoiceTicket.Proofs.Text.Encoding
import VoiceTicket.Url.Parser

namespace VoiceTicket.Url

open VoiceTicket.Url.Parser (isPadding)

/-- What may stand around a base URL without being part of it. -/
def isMargin (c : Char) : Bool := Text.isBlank c || isPadding c

theorem isPadding_iff {c : Char} : isPadding c = true ↔ c.toNat ≤ 0x20 := by
  rw [isPadding, decide_eq_true_eq, Char.le_def, UInt32.le_iff_toNat_le]
  rfl

theorem isMargin_of_isPadding {c : Char} (padding : isPadding c = true) : isMargin c = true := by
  rw [isMargin, padding, Bool.or_true]

namespace Domain

/-! ## The margin, as ranges -/

/-- The blanks beyond the padding. -/
def wideBlanks : Ranges :=
  [(0x85, 0x85), (0xA0, 0xA0), (0x1680, 0x1680), (0x2000, 0x200A), (0x2028, 0x2029),
    (0x202F, 0x202F), (0x205F, 0x205F), (0x3000, 0x3000)]

/-- The characters of the margin. -/
def margins : Ranges := (0, 0x20) :: wideBlanks

theorem holds_margins {c : Char} (margin : isMargin c = true) : margins.holds c = true := by
  simp only [margins, wideBlanks, Ranges.holds, List.any_cons, List.any_nil, Bool.or_eq_true,
    Bool.and_eq_true, decide_eq_true_eq]
  rcases Bool.or_eq_true_iff.1 margin with blank | padding
  · simp only [Text.isBlank, Bool.or_eq_true, Bool.and_eq_true, decide_eq_true_eq, beq_iff_eq]
      at blank
    omega
  · have small := isPadding_iff.1 padding
    omega

theorem isPadding_of_holds {c : Char} (margin : margins.holds c = true)
    (narrow : wideBlanks.holds c = false) : isPadding c = true := by
  have either : (decide (0 ≤ c.toNat) && decide (c.toNat ≤ 0x20) || wideBlanks.holds c) = true :=
    margin
  rw [narrow, Bool.or_false, Bool.and_eq_true, decide_eq_true_eq, decide_eq_true_eq] at either
  exact isPadding_iff.2 either.2

/-- A range has no character in common with some others. -/
def isApart (ranges : Ranges) (range : Nat × Nat) : Bool :=
  ranges.all fun r => range.2 < r.1 || r.2 < range.1

theorem holds_of_apart {ranges others : Ranges} {c : Char}
    (apart : ranges.all (isApart others) = true) (held : others.holds c = true) :
    ranges.holds c = false := by
  rw [Bool.eq_false_iff]
  intro also
  obtain ⟨r, mem, within⟩ := List.any_eq_true.1 also
  obtain ⟨s, mem', within'⟩ := List.any_eq_true.1 held
  have between := List.all_eq_true.1 (List.all_eq_true.1 apart r mem) s mem'
  simp only [Bool.and_eq_true, Bool.or_eq_true, decide_eq_true_eq] at within within' between
  omega

/-! ## What the tables say of it -/

theorem words_ofList (cs : List Char) : words (String.ofList cs) = wordsAfter [] cs := by
  rw [words, String.toList_ofList]

set_option maxRecDepth 100000 in
/-- Nothing of the margin is passed over. -/
theorem ignored_apart : ignored.all (isApart margins) = true := by
  unfold ignored Ranges.ofText
  rw [words_ofList _]
  decide +kernel

set_option maxRecDepth 100000 in
/-- The padding apart, nothing of the margin is permitted. -/
theorem permitted_apart : permitted.all (isApart wideBlanks) = true := by
  unfold permitted Ranges.ofText
  rw [words_ofList _]
  decide +kernel

/-- If a character of the margin stands for others, then for a blank. -/
def Mapping.isMarginal : Mapping → Bool
  | .single c image => isApart margins (c, c) || image == [0x20]
  | .run first count _ => isApart margins (first, first + count - 1)

set_option maxRecDepth 100000 in
theorem mappings_marginal : mappings.all Mapping.isMarginal = true := by
  unfold mappings Mapping.ofText
  rw [words_ofList _]
  decide +kernel

set_option maxRecDepth 100000 in
/-- No padding takes part in a composition. -/
theorem compositions_above :
    compositions.all (fun p => 0x20 < p.whole && 0x20 < p.first && 0x20 < p.second) = true := by
  unfold compositions
  rw [words_ofList _]
  decide +kernel

/-! ## Mapping -/

/-- What a character becomes when a domain is mapped, if it can stand in one. -/
def image? (c : Char) : Option (List Char) :=
  match mapped? c with
  | some image => some image
  | none => if isPermitted c then some [c] else none

theorem mapAll?_eq (cs : List Char) : mapAll? cs = (cs.mapM image?).map List.flatten := rfl

theorem image_of_isMarginal {m : Mapping} {c : Char} {image : List Nat}
    (margin : margins.holds c = true) (marginal : m.isMarginal = true)
    (found : m.image? c.toNat = some image) : image = [0x20] := by
  have inside {range : Nat × Nat} (low : range.1 ≤ c.toNat) (high : c.toNat ≤ range.2) :
      isApart margins range = false := by
    rw [Bool.eq_false_iff]
    intro apart
    obtain ⟨s, mem, within⟩ := List.any_eq_true.1 margin
    have between := List.all_eq_true.1 apart s mem
    simp only [Bool.and_eq_true, Bool.or_eq_true, decide_eq_true_eq] at within between
    omega
  cases m with
  | single d target =>
    rw [Mapping.image?] at found
    split at found
    · next same =>
      cases found
      rw [Mapping.isMarginal, inside (Nat.le_of_eq same.symm) (Nat.le_of_eq same), Bool.false_or,
        beq_iff_eq] at marginal
      exact marginal
    · cases found
  | run first count target =>
    rw [Mapping.image?] at found
    split at found
    · next within =>
      have high : c.toNat ≤ first + count - 1 := by omega
      rw [Mapping.isMarginal, inside within.1 high] at marginal
      cases marginal
    · cases found

/-- A character of the margin becomes some padding, if it can stand in a domain at all. -/
theorem exists_padding_of_image? {c : Char} {image : List Char} (margin : isMargin c = true)
    (found : image? c = some image) : ∃ z ∈ image, isPadding z = true := by
  have held := holds_margins margin
  have heeded := holds_of_apart ignored_apart held
  rw [image?] at found
  cases stands : mapped? c with
  | some target =>
    rw [stands] at found
    cases found
    rw [mapped?, heeded, if_neg Bool.false_ne_true, Option.map_eq_some_iff] at stands
    obtain ⟨numbers, some, rfl⟩ := stands
    obtain ⟨m, mem, applies⟩ := List.exists_of_findSome?_eq_some some
    rw [image_of_isMarginal held (List.all_eq_true.1 mappings_marginal m mem) applies]
    exact ⟨' ', List.mem_singleton_self _, by decide⟩
  | none =>
    rw [stands] at found
    cases permit : isPermitted c with
    | false =>
      simp only [permit, Bool.false_eq_true, if_false] at found
      cases found
    | true =>
      simp only [permit, if_true, Option.some.injEq] at found
      subst found
      refine ⟨c, List.mem_singleton_self c, isPadding_of_holds held ?_⟩
      rw [Bool.eq_false_iff]
      intro high
      rw [isPermitted, holds_of_apart permitted_apart high] at permit
      cases permit

theorem exists_padding_of_mapAll? {cs mapped : List Char} {c : Char}
    (found : mapAll? cs = some mapped) (mem : c ∈ cs) (margin : isMargin c = true) :
    ∃ z ∈ mapped, isPadding z = true := by
  rw [mapAll?_eq, Option.map_eq_some_iff] at found
  obtain ⟨images, each, rfl⟩ := found
  obtain ⟨image, mem', found⟩ := Text.Utf8.exists_mem_of_mapM each mem
  obtain ⟨z, inside, padding⟩ := exists_padding_of_image? margin found
  exact ⟨z, List.mem_flatten.2 ⟨image, mem', inside⟩, padding⟩

/-! ## Composing -/

variable {z : Char}

theorem composition_above {p : Composition} (mem : p ∈ compositions) :
    0x20 < p.whole ∧ 0x20 < p.first ∧ 0x20 < p.second := by
  have above := List.all_eq_true.1 compositions_above p mem
  simp only [Bool.and_eq_true, decide_eq_true_eq] at above
  exact ⟨above.1.1, above.1.2, above.2⟩

theorem partsBy_of_ne {ps : List Composition} {n : Nat} (whole : ∀ p ∈ ps, n ≠ p.whole) :
    partsBy ps n = [n] := by
  induction ps with
  | nil => rfl
  | cons p ps ih =>
    rw [partsBy, if_neg (whole p List.mem_cons_self)]
    exact ih fun q mem => whole q (List.mem_cons_of_mem p mem)

/-- Padding is not taken apart. -/
theorem parts_of_padding (padding : isPadding z = true) : parts z = [z] := by
  have small := isPadding_iff.1 padding
  have single : partsBy compositions z.toNat = [z.toNat] := by
    refine partsBy_of_ne fun p mem => ?_
    have above := composition_above mem
    omega
  rw [parts, hangulParts?, if_neg (by omega)]
  show (partsBy compositions z.toNat).map Char.ofNat = [z]
  rw [single, List.map_singleton, Char.ofNat_toNat]

/-- Padding is put together with nothing. -/
theorem whole?_of_padding {a b : Char} (padding : isPadding a = true ∨ isPadding b = true) :
    whole? a b = none := by
  have small : a.toNat ≤ 0x20 ∨ b.toNat ≤ 0x20 := padding.imp isPadding_iff.1 isPadding_iff.1
  have none' : compositions.find? (fun p => p.first = a.toNat && p.second = b.toNat) = none := by
    rw [List.find?_eq_none]
    intro p mem
    have above := composition_above mem
    simp only [Bool.and_eq_true, decide_eq_true_eq]
    omega
  rw [whole?, hangul?, if_neg (by omega), if_neg (by omega)]
  show (compositions.find? _).map _ = _
  rw [none']
  rfl

theorem mem_insertMark {c : Char} {cs : List Char} (mem : z = c ∨ z ∈ cs) :
    z ∈ insertMark c cs := by
  induction cs with
  | nil => simpa [insertMark] using mem
  | cons d ds ih =>
    rw [insertMark]
    split
    · rcases mem with rfl | mem
      · exact List.mem_cons_of_mem d (ih (Or.inl rfl))
      · rcases List.mem_cons.1 mem with rfl | later
        · exact List.mem_cons_self
        · exact List.mem_cons_of_mem d (ih (Or.inr later))
    · exact List.mem_cons.2 mem

theorem mem_inOrder {cs : List Char} (mem : z ∈ cs) : z ∈ inOrder cs := by
  induction cs with
  | nil => cases mem
  | cons c cs ih => exact mem_insertMark ((List.mem_cons.1 mem).imp_right ih)

theorem mem_joinFrom (padding : isPadding z = true) {base : Char} {held cs : List Char}
    (mem : z = base ∨ z ∈ held ∨ z ∈ cs) : z ∈ joinFrom base held cs := by
  induction cs generalizing base held with
  | nil => simpa [joinFrom] using mem
  | cons c cs ih =>
    simp only [joinFrom]
    split
    · next composed found =>
      -- Neither of the two is padding, so it is among the rest.
      have apart : ¬ (isPadding base = true ∨ isPadding c = true) := by
        intro either
        rw [whole?_of_padding either, ite_self] at found
        cases found
      refine ih (Or.inr ?_)
      rcases mem with rfl | mem | mem
      · exact absurd (Or.inl padding) apart
      · exact Or.inl mem
      · rcases List.mem_cons.1 mem with rfl | later
        · exact absurd (Or.inr padding) apart
        · exact Or.inr later
    · split
      · rw [List.cons_append, List.mem_cons, List.mem_append, List.mem_reverse]
        rcases mem with rfl | mem | mem
        · exact Or.inl rfl
        · exact Or.inr (Or.inl mem)
        · exact Or.inr (Or.inr (ih ((List.mem_cons.1 mem).imp_right Or.inr)))
      · refine ih ?_
        rcases mem with rfl | mem | mem
        · exact Or.inl rfl
        · exact Or.inr (Or.inl (List.mem_cons_of_mem c mem))
        · rcases List.mem_cons.1 mem with rfl | later
          · exact Or.inr (Or.inl List.mem_cons_self)
          · exact Or.inr (Or.inr later)

theorem mem_join (padding : isPadding z = true) {cs : List Char} (mem : z ∈ cs) : z ∈ join cs := by
  induction cs with
  | nil => cases mem
  | cons c cs ih =>
    rw [join]
    split
    · exact mem_joinFrom padding ((List.mem_cons.1 mem).imp_right Or.inr)
    · exact List.mem_cons.2 ((List.mem_cons.1 mem).imp_right ih)

/-- **Composing keeps padding.** -/
theorem mem_compose (padding : isPadding z = true) {cs : List Char} (mem : z ∈ cs) :
    z ∈ compose cs := by
  refine mem_join padding (mem_inOrder (List.mem_flatMap.2 ⟨z, mem, ?_⟩))
  rw [parts_of_padding padding]
  exact List.mem_singleton_self z

/-! ## Labels -/

theorem mem_splitAt {sep c : Char} {cs : List Char} (mem : c ∈ cs) (other : c ≠ sep) :
    ∃ part ∈ splitAt sep cs, c ∈ part := by
  induction cs with
  | nil => cases mem
  | cons d ds ih =>
    rw [splitAt]
    cases rest : splitAt sep ds with
    | nil =>
      rcases List.mem_cons.1 mem with rfl | later
      · exact ⟨[c], List.mem_singleton_self _, List.mem_singleton_self c⟩
      · obtain ⟨part, mem', _⟩ := ih later
        rw [rest] at mem'
        cases mem'
    | cons head tail =>
      dsimp only
      rcases List.mem_cons.1 mem with rfl | later
      · rw [if_neg other]
        exact ⟨c :: head, List.mem_cons_self, List.mem_cons_self⟩
      · obtain ⟨part, mem', inside⟩ := ih later
        rw [rest] at mem'
        split
        · exact ⟨part, List.mem_cons_of_mem [] mem', inside⟩
        · rcases List.mem_cons.1 mem' with rfl | behind
          · exact ⟨d :: part, List.mem_cons_self, List.mem_cons_of_mem d inside⟩
          · exact ⟨part, List.mem_cons_of_mem _ behind, inside⟩

theorem isBasic_of_padding (padding : isPadding z = true) : Punycode.isBasic z = true := by
  have small := isPadding_iff.1 padding
  rw [Punycode.isBasic, decide_eq_true_eq]
  omega

/-- Punycode copies the ASCII characters. -/
theorem mem_punycode {cs : List Char} (basic : Punycode.isBasic z = true) (mem : z ∈ cs) :
    z ∈ Punycode.encode cs := by
  have copied : z ∈ cs.filter Punycode.isBasic := List.mem_filter.2 ⟨mem, basic⟩
  have some : (cs.filter Punycode.isBasic).isEmpty = false := by
    rw [List.isEmpty_eq_false_iff]
    exact List.ne_nil_of_mem copied
  rw [Punycode.encode]
  simp only [some, Bool.false_eq_true, if_false, List.mem_append]
  exact Or.inl (Or.inl copied)

/-- A label is written with all its padding. -/
theorem mem_ascii_of_ofMapped? {cs : List Char} {label : Label}
    (read : Label.ofMapped? cs = some label) (padding : isPadding z = true) (mem : z ∈ cs) :
    z ∈ label.ascii := by
  rw [Label.ofMapped?] at read
  split at read
  · -- The label is in Punycode already, and is written as it is.
    split at read
    · split at read
      · split at read
        · cases read
          exact mem
        · cases read
      · cases read
    · cases read
  · cases read
    show z ∈ if isAscii cs then cs else punycodeMark ++ Punycode.encode cs
    split
    · exact mem
    · exact List.mem_append_right punycodeMark (mem_punycode (isBasic_of_padding padding) mem)

theorem mem_intercalate {sep part : List Char} {parts : List (List Char)} (mem : part ∈ parts)
    (inside : z ∈ part) : z ∈ sep.intercalate parts := by
  induction parts with
  | nil => cases mem
  | cons first rest ih =>
    cases rest with
    | nil =>
      rw [List.mem_singleton.1 mem] at inside
      rw [List.intercalate_singleton]
      exact inside
    | cons second rest =>
      rw [List.intercalate_cons_cons]
      rcases List.mem_cons.1 mem with rfl | later
      · exact List.mem_append_left _ (List.mem_append_left sep inside)
      · exact List.mem_append_right _ (ih later)

/-! ## Domains -/

theorem toNat_of_margin {c : Char} (margin : isMargin c = true) :
    c.toNat ≤ 0x20 ∨ 0x85 ≤ c.toNat := by
  have held := holds_margins margin
  simp only [margins, wideBlanks, Ranges.holds, List.any_cons, List.any_nil, Bool.or_eq_true,
    Bool.and_eq_true, decide_eq_true_eq, Bool.false_eq_true, or_false] at held
  omega

theorem toLower_of_margin {c : Char} (margin : isMargin c = true) : c.toLower = c := by
  have apart := toNat_of_margin margin
  show dite (c.val ≥ 'A'.val ∧ c.val ≤ 'Z'.val) _ _ = c
  refine dif_neg ?_
  rintro ⟨low, high⟩
  have low : 65 ≤ c.toNat := UInt32.le_iff_toNat_le.1 low
  have high : c.toNat ≤ 90 := UInt32.le_iff_toNat_le.1 high
  omega

/-- What is of the margin in a domain is padding in its ASCII form. -/
theorem exists_padding_of_asciiForm? {cs form : List Char} {c : Char}
    (found : asciiForm? cs = some form) (mem : c ∈ cs) (margin : isMargin c = true) :
    ∃ z ∈ form, isPadding z = true := by
  have lower : c ∈ cs.map Char.toLower :=
    List.mem_map.2 ⟨c, mem, toLower_of_margin margin⟩
  rw [asciiForm?] at found
  split at found
  · next plain =>
    -- Of the margin, only padding is ASCII.
    cases found
    rw [isPlain, Bool.and_eq_true, isAscii, List.all_eq_true] at plain
    have basic := plain.1 c lower
    rw [Punycode.isBasic, decide_eq_true_eq] at basic
    have apart := toNat_of_margin margin
    exact ⟨c, lower, isPadding_iff.2 (by omega)⟩
  · rw [Option.map_eq_some_iff] at found
    obtain ⟨labels, found, rfl⟩ := found
    rw [labels?] at found
    obtain ⟨mapped, map, found⟩ := Option.bind_eq_some_iff.1 found
    obtain ⟨read, each, found⟩ := Option.bind_eq_some_iff.1 found
    split at found
    · cases found
      obtain ⟨z, mem, padding⟩ := exists_padding_of_mapAll? map mem margin
      have inner : z ≠ '.' := by
        rintro rfl
        exact absurd padding (by decide)
      obtain ⟨part, mem, inside⟩ := mem_splitAt (mem_compose padding mem) inner
      obtain ⟨label, mem, read⟩ := Text.Utf8.exists_mem_of_mapM each mem
      have written := mem_ascii_of_ofMapped? read padding inside
      exact ⟨z, mem_intercalate (List.mem_map.2 ⟨label, mem, rfl⟩) written, padding⟩
    · cases found

theorem isDenied_of_padding (padding : isPadding z = true) : isDenied z = true := by
  have low : decide (z ≤ ' ') = true := padding
  rw [isDenied, low, Bool.true_or, Bool.true_or]

/-- A domain that holds something of the margin has no ASCII form. -/
theorem toAscii?_of_margin {bytes : List UInt8} {text : String} {c : Char}
    (decoded : Text.Utf8.decode? bytes = some text) (mem : c ∈ text.toList)
    (margin : isMargin c = true) : toAscii? bytes = none := by
  rw [toAscii?, decoded, Option.bind_eq_bind, Option.bind_some]
  cases found : asciiForm? text.toList with
  | none => rfl
  | some form =>
    obtain ⟨z, mem, padding⟩ := exists_padding_of_asciiForm? found mem margin
    have denied : form.any isDenied = true :=
      List.any_eq_true.2 ⟨z, mem, isDenied_of_padding padding⟩
    rw [Option.bind_eq_bind, Option.bind_some, if_pos denied]

end Domain

/-! ## Bytes -/

theorem digit?_of_margin {c : Char} (margin : isMargin c = true) : Percent.digit? c = none := by
  have apart := Domain.toNat_of_margin margin
  have outside {low high : Char} (above : 0x20 < low.toNat) (below : high.toNat < 0x85) :
      ¬ (low ≤ c ∧ c ≤ high) := by
    rintro ⟨le, ge⟩
    have le : low.toNat ≤ c.toNat := UInt32.le_iff_toNat_le.1 le
    have ge : c.toNat ≤ high.toNat := UInt32.le_iff_toNat_le.1 ge
    omega
  rw [Percent.digit?, if_neg (outside (by decide) (by decide)),
    if_neg (outside (by decide) (by decide)), if_neg (outside (by decide) (by decide))]

/-- What is no digit at the end of a text is no part of a percent encoded byte. -/
theorem decode_append_singleton (cs : List Char) {c : Char} (digit : Percent.digit? c = none) :
    Percent.decode (cs ++ [c]) = Percent.decode cs ++ String.utf8EncodeChar c := by
  fun_induction Percent.decode cs with
  | case1 a b rest h l high low ih =>
    rw [List.cons_append, List.cons_append, List.cons_append, Percent.decode, high, low]
    show _ :: Percent.decode (rest ++ [c]) = _
    rw [ih, List.cons_append]
  | case2 a b rest other ih =>
    rw [List.cons_append, List.cons_append, List.cons_append, Percent.decode]
    split
    · next h l high low => exact absurd low (other h l high)
    · show _ ++ Percent.decode (a :: b :: rest ++ [c]) = _
      rw [ih, List.append_assoc]
  | case3 d rest short ih =>
    have apart : Percent.decode (d :: (rest ++ [c])) =
        String.utf8EncodeChar d ++ Percent.decode (rest ++ [c]) := by
      match rest, short with
      | [], _ => exact Percent.decode.eq_2 d [c] (fun _ _ _ _ longer => nomatch longer)
      | [a], _ =>
        by_cases percent : d = '%'
        · subst percent
          show Percent.decode ('%' :: a :: c :: []) = _
          rw [Percent.decode, digit]
          split
          · next none' => cases none'
          · rfl
        · exact Percent.decode.eq_2 d _ (fun _ _ _ same => absurd same percent)
      | a :: b :: rest, short =>
        exact Percent.decode.eq_2 d _ (fun _ _ _ same => absurd rfl (short a b rest same))
    rw [List.cons_append, apart, ih, List.append_assoc]
  | case4 =>
    have alone := Percent.decode.eq_2 c [] (fun _ _ _ _ longer => nomatch longer)
    rw [List.nil_append, alone, Percent.decode, List.append_nil, List.nil_append]

/-! ## Hosts and ports -/

namespace Parser

variable {cs : List Char} {c : Char}

theorem toAscii?_decode_of_margin (last : cs.getLast? = some c) (margin : isMargin c = true) :
    Domain.toAscii? (Percent.decode cs) = none := by
  obtain ⟨front, rfl⟩ := List.getLast?_eq_some_iff.1 last
  rw [decode_append_singleton front (digit?_of_margin margin)]
  cases decoded : Text.Utf8.decode? (Percent.decode front ++ String.utf8EncodeChar c) with
  | none =>
    rw [Domain.toAscii?, decoded]
    rfl
  | some text =>
    exact Domain.toAscii?_of_margin decoded (Text.Utf8.mem_of_decode? decoded) margin

theorem specialHost_of_margin (last : cs.getLast? = some c) (margin : isMargin c = true)
    (host : Host) : specialHost cs ≠ .ok host := by
  unfold specialHost
  split
  · unfold bracketed
    split
    · next closed =>
      rw [last] at closed
      cases closed
      exact absurd margin (by decide)
    · exact nofun
  · rw [toAscii?_decode_of_margin last margin]
    exact nofun

theorem port_of_margin {scheme : String} (last : cs.getLast? = some c)
    (margin : isMargin c = true) :
    port scheme cs = .error .badPort := by
  obtain ⟨front, rfl⟩ := List.getLast?_eq_some_iff.1 last
  have unreadable : readDigits? 10 (front ++ [c]) = none := by
    simp [readDigits?, digit?_of_margin margin]
  rw [port, unreadable]

/-- A text is its host and the rest of it, which is empty or begins with the colon of a port. -/
theorem hostSpan_cases (inside : Bool) (cs : List Char) :
    (hostSpan inside cs).1 ++ (hostSpan inside cs).2 = cs ∧
      ((hostSpan inside cs).2 = [] ∨ ∃ digits, (hostSpan inside cs).2 = ':' :: digits) := by
  induction cs generalizing inside with
  | nil => exact ⟨rfl, Or.inl rfl⟩
  | cons c cs ih =>
    rw [hostSpan]
    split
    · next colon =>
      rw [colon.1]
      exact ⟨rfl, Or.inr ⟨cs, rfl⟩⟩
    · exact ⟨congrArg (c :: ·) (ih _).1, (ih _).2⟩

/-- Host and port of one of the well-known schemes. -/
theorem hostPort_special (scheme : String) (cs : List Char) :
    hostPort scheme .special cs =
      if (hostSpan false cs).1.isEmpty then .error .emptyHost
      else (specialHost (hostSpan false cs).1).bind fun host =>
        match (hostSpan false cs).2 with
        | ':' :: digits => (port scheme digits).map (host, ·)
        | _ => .ok (host, none) := by
  rw [hostPort]
  rcases hostSpan false cs with ⟨name, rest⟩
  cases empty : name.isEmpty with
  | true => simp only [empty, SchemeKind.isSpecial, Bool.true_or, Bool.and_true, if_true]; rfl
  | false =>
    simp only [empty, SchemeKind.isSpecial, Bool.false_and, Bool.false_eq_true, if_false, if_true]
    cases specialHost name with
    | error fault => rfl
    | ok host =>
      show (match rest with
        | ':' :: digits => (port scheme digits).bind fun p => .ok (host, p)
        | _ => .ok (host, none)) = _
      split
      · next digits =>
        show _ = (port scheme digits).map (host, ·)
        cases port scheme digits <;> rfl
      · rfl

/-- Neither a port nor a host ends in a character of the margin. -/
theorem hostPort_of_margin {scheme : String} (last : cs.getLast? = some c)
    (margin : isMargin c = true) (found : Host × Option Nat) :
    hostPort scheme .special cs ≠ .ok found := by
  obtain ⟨whole, end'⟩ := hostSpan_cases false cs
  rw [hostPort_special]
  split
  · exact nofun
  rcases end' with none' | ⟨digits, some'⟩
  · rw [none', List.append_nil] at whole
    rw [whole]
    cases host : specialHost cs with
    | error fault => exact nofun
    | ok name => exact absurd host (specialHost_of_margin last margin name)
  · rw [some'] at whole
    have behind : (':' :: digits).getLast? = some c := by
      rw [← whole, List.getLast?_append] at last
      rw [← last, List.getLast?_cons, Option.some_or]
    have refused : port scheme digits = .error .badPort := by
      match digits, behind with
      | [], behind =>
        cases behind
        exact absurd margin (by decide)
      | d :: ds, behind => exact port_of_margin behind margin
    simp only [some', refused]
    cases specialHost (hostSpan false cs).1 <;> exact nofun

/-- What stands behind the last sign of its kind ends as the whole text does. -/
theorem getLast?_of_splitLast {sep : Char} {user rest : List Char}
    (split : splitLast sep cs = some (user, rest)) (last : cs.getLast? = some c) (other : c ≠ sep) :
    rest.getLast? = some c := by
  obtain ⟨front, rfl⟩ := List.getLast?_eq_some_iff.1 last
  rw [splitLast] at split
  split at split
  · cases split
    rw [List.reverse_append, List.reverse_singleton, List.singleton_append,
      List.takeWhile_cons_of_pos (by simpa using other), List.reverse_cons, List.getLast?_append,
      List.getLast?_singleton, Option.some_or]
  · cases split

/-- An authority of one of the well-known schemes; it is the same whatever follows. -/
theorem authority_special (scheme : String) (more : Bool) (cs : List Char) :
    authority scheme .special more cs =
      match splitLast '@' cs with
      | none => (hostPort scheme .special cs).map fun (host, port) => ⟨"", none, host, port⟩
      | some (user, rest) => (hostPort scheme .special rest).bind fun (host, port) =>
        if (decide (host = .name "") &&
            (!(userinfo user).1.isEmpty || (userinfo user).2.isSome)) = true
        then .error .emptyHost
        else .ok ⟨(userinfo user).1, (userinfo user).2, host, port⟩ := by
  rw [authority]
  rcases splitLast '@' cs with _ | ⟨user, rest⟩
  · cases hostPort scheme .special cs <;> rfl
  · by_cases none' : (user.isEmpty && rest.isEmpty && more) = true
    · -- The host is missing, which is refused with the same reason further on.
      have empty : rest = [] := by
        rw [Bool.and_eq_true, Bool.and_eq_true, List.isEmpty_iff, List.isEmpty_iff] at none'
        exact none'.1.2
      rw [empty, hostPort_special]
      rw [empty] at none'
      simp only [none', if_true]
      rfl
    · simp only [none', Bool.false_eq_true, if_false]
      cases hostPort scheme .special rest with
      | error fault => rfl
      | ok pair =>
        show (if _ then _ else _) = if _ then _ else _
        split
        · rfl
        · rfl

/-- **No authority ends in the margin.** -/
theorem authority_of_margin {scheme : String} {more : Bool} (last : cs.getLast? = some c)
    (margin : isMargin c = true) (a : Authority) :
    authority scheme .special more cs ≠ .ok a := by
  have other : c ≠ '@' := by
    rintro rfl
    exact absurd margin (by decide)
  rw [authority_special]
  split
  · cases found : hostPort scheme .special cs with
    | error fault => exact nofun
    | ok pair => exact absurd found (hostPort_of_margin last margin pair)
  · next user rest split =>
    cases found : hostPort scheme .special rest with
    | error fault => exact nofun
    | ok pair =>
      exact absurd found (hostPort_of_margin (getLast?_of_splitLast split last other) margin pair)

end Parser

end VoiceTicket.Url
