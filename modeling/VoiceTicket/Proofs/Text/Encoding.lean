/-
  What is encoded is decoded.

  1. **Data** — `owing value owed rest`: what the machine still finds when it has the bits of a
     character so far, and some bytes of it are owed.

  2. **Specification** — `decode?_encode`: the bytes of a text are proper UTF-8, and they are read
     as that text.

  3. **Crux** — the form of a character has one to four bytes (`pieces_utf8EncodeChar`).  Its lead
     says how many follow, and leaves to the byte behind it the very range that the form keeps to
     (`Opens`): what the range shuts out are overlong forms and surrogates, and no text has them.
-/
import VoiceTicket.Text.Utf8

namespace VoiceTicket.Text.Utf8

/-! ## Bytes as numbers -/

theorem toNat_byte {n : Nat} (h : n < 256) : (UInt8.ofNat n).toNat = n :=
  UInt8.toNat_ofNat_of_lt h

theorem byte_le {m n : Nat} (h : n < 256) (le : m ≤ n) : UInt8.ofNat m ≤ UInt8.ofNat n := by
  rw [UInt8.le_iff_toNat_le, toNat_byte h, toNat_byte (Nat.lt_of_le_of_lt le h)]
  exact le

/-- What a byte is as a lead, by its number. -/
theorem start_ofNat {n : Nat} (h : n < 256) :
    start (UInt8.ofNat n) =
      if n < 0x80 then .ascii (Char.ofNat n)
      else if n < 0xC2 then .invalid
      else if n < 0xE0 then .opens ⟨n - 0xC0, 1, 0x80, 0xBF⟩
      else if n = 0xE0 then .opens ⟨0, 2, 0xA0, 0xBF⟩
      else if n = 0xED then .opens ⟨0xD, 2, 0x80, 0x9F⟩
      else if n < 0xF0 then .opens ⟨n - 0xE0, 2, 0x80, 0xBF⟩
      else if n = 0xF0 then .opens ⟨0, 3, 0x90, 0xBF⟩
      else if n < 0xF4 then .opens ⟨n - 0xF0, 3, 0x80, 0xBF⟩
      else if n = 0xF4 then .opens ⟨4, 3, 0x80, 0x8F⟩
      else .invalid := by
  simp only [start, UInt8.lt_iff_toNat_lt, beq_iff_eq, ← UInt8.toNat_inj, toNat_byte h]
  rfl

/-! ## Characters of several bytes -/

/-- What is found when the bits of a character so far are known and some bytes are owed. -/
def owing (value owed : Nat) (rest : List UInt8) : List (Option Char) :=
  if owed = 0 then some (Char.ofNat value) :: pieces none rest
  else pieces (some ⟨value, owed, 0x80, 0xBF⟩) rest

/-- A byte in the range is one byte less that is owed. -/
theorem pieces_some {u : Unfinished} {b : UInt8} (lo : u.lo ≤ b) (hi : b ≤ u.hi)
    (rest : List UInt8) :
    pieces (some u) (b :: rest) = owing (u.value * 64 + b.toNat % 64) (u.owed - 1) rest := by
  have range : (u.lo ≤ b && b ≤ u.hi) = true := by simp [lo, hi]
  simp only [pieces, step, range, if_true, owing]
  by_cases last : u.owed ≤ 1
  · have none' : u.owed - 1 = 0 := by omega
    simp [last, none']
  · have some' : u.owed - 1 ≠ 0 := by omega
    simp [last, some']

/-- A byte behind the second one adds six bits. -/
theorem owing_cons {n : Nat} (six : n < 64) (value owed : Nat) (rest : List UInt8) :
    owing value (owed + 1) (UInt8.ofNat (n + 0x80) :: rest) = owing (value * 64 + n) owed rest := by
  have bits : (n + 0x80) % 64 = n := by omega
  have lo : UInt8.ofNat 0x80 ≤ UInt8.ofNat (n + 0x80) := byte_le (by omega) (Nat.le_add_left ..)
  have hi : UInt8.ofNat (n + 0x80) ≤ UInt8.ofNat 0xBF :=
    byte_le (by decide) (Nat.add_le_add_right (Nat.le_of_lt_succ six) 0x80)
  rw [owing, if_neg (Nat.succ_ne_zero owed), pieces_some lo hi, toNat_byte (by omega), bits]
  rfl

/-- What a lead leaves open: the bits so far, how many bytes are owed, and a range that the byte
with these bits lies in. -/
def Opens (lead value owed bits : Nat) : Prop :=
  ∃ lo hi : Nat, start (UInt8.ofNat lead) = .opens ⟨value, owed, UInt8.ofNat lo, UInt8.ofNat hi⟩
    ∧ lo ≤ bits + 0x80 ∧ bits + 0x80 ≤ hi ∧ hi < 256

theorem Opens.pieces {lead value owed bits : Nat} (h : Opens lead value (owed + 1) bits)
    (six : bits < 64) (rest : List UInt8) :
    pieces none (UInt8.ofNat lead :: UInt8.ofNat (bits + 0x80) :: rest) =
      owing (value * 64 + bits) owed rest := by
  obtain ⟨lo, hi, opens, above, below, byte⟩ := h
  have same : (bits + 0x80) % 64 = bits := by omega
  rw [Utf8.pieces, step, fresh, opens, List.nil_append,
    pieces_some (byte_le (by omega) above) (byte_le byte below), toNat_byte (by omega), same]
  rfl

variable {v : Nat}

theorem opens_two (low : 0x80 ≤ v) (high : v ≤ 0x7ff) :
    Opens (v / 64 % 0x20 + 0xc0) (v / 64) 1 (v % 0x40) := by
  have value : v / 64 % 0x20 + 0xc0 - 0xc0 = v / 64 := by omega
  refine ⟨0x80, 0xBF, ?_, by omega, by omega, by decide⟩
  rw [start_ofNat (by omega), if_neg (by omega), if_neg (by omega), if_pos (by omega), value]
  rfl

theorem opens_three (low : 0x800 ≤ v) (high : v ≤ 0xffff) (whole : v < 0xd800 ∨ 0xdfff < v) :
    Opens (v / 4096 % 0x10 + 0xe0) (v / 4096) 2 (v / 64 % 0x40) := by
  -- Zero shuts out overlong forms, thirteen surrogates.
  by_cases zero : v / 4096 = 0
  · rw [zero]
    exact ⟨0xA0, 0xBF, rfl, by omega, by omega, by decide⟩
  by_cases thirteen : v / 4096 = 13
  · rw [thirteen]
    exact ⟨0x80, 0x9F, rfl, by omega, by omega, by decide⟩
  have value : v / 4096 % 0x10 + 0xe0 - 0xe0 = v / 4096 := by omega
  refine ⟨0x80, 0xBF, ?_, by omega, by omega, by decide⟩
  rw [start_ofNat (by omega), if_neg (by omega), if_neg (by omega), if_neg (by omega),
    if_neg (by omega), if_neg (by omega), if_pos (by omega), value]
  rfl

theorem opens_four (low : 0x10000 ≤ v) (high : v ≤ 0x10ffff) :
    Opens (v / 262144 % 0x08 + 0xf0) (v / 262144) 3 (v / 4096 % 0x40) := by
  -- Zero shuts out overlong forms, four what is above the last character.
  by_cases zero : v / 262144 = 0
  · rw [zero]
    exact ⟨0x90, 0xBF, rfl, by omega, by omega, by decide⟩
  by_cases four : v / 262144 = 4
  · rw [four]
    exact ⟨0x80, 0x8F, rfl, by omega, by omega, by decide⟩
  have value : v / 262144 % 0x08 + 0xf0 - 0xf0 = v / 262144 := by omega
  refine ⟨0x80, 0xBF, ?_, by omega, by omega, by decide⟩
  rw [start_ofNat (by omega), if_neg (by omega), if_neg (by omega), if_neg (by omega),
    if_neg (by omega), if_neg (by omega), if_neg (by omega), if_neg (by omega), if_pos (by omega),
    value]
  rfl

/-! ## Texts -/

/-- **The form of a character is read as that character**, whatever comes after it. -/
theorem pieces_utf8EncodeChar (c : Char) (rest : List UInt8) :
    pieces none (String.utf8EncodeChar c ++ rest) = some c :: pieces none rest := by
  have valid : c.val.toNat < 0xd800 ∨ 0xdfff < c.val.toNat ∧ c.val.toNat < 0x110000 := c.valid
  have same : Char.ofNat c.val.toNat = c := Char.ofNat_toNat c
  rw [String.utf8EncodeChar]
  generalize c.val.toNat = v at valid same ⊢
  have six : ∀ n, n % 0x40 < 64 := fun n => by omega
  show pieces none ((if v ≤ 0x7f then _ else if v ≤ 0x7ff then _ else
    if v ≤ 0xffff then _ else _) ++ rest) = _
  split
  · next one =>
    rw [List.singleton_append, pieces, step, fresh, start_ofNat (by omega), if_pos (by omega), same]
    rfl
  next notOne =>
  split
  · next two =>
    have whole : v / 64 * 64 + v % 0x40 = v := by omega
    rw [List.cons_append, List.singleton_append,
      (opens_two (by omega) two).pieces (six v), whole, owing, if_pos rfl, same]
  next notTwo =>
  split
  · next three =>
    have whole : (v / 4096 * 64 + v / 64 % 0x40) * 64 + v % 0x40 = v := by omega
    rw [List.cons_append, List.cons_append, List.singleton_append,
      (opens_three (by omega) three (by omega)).pieces (six (v / 64)),
      owing_cons (six v), whole, owing, if_pos rfl, same]
  · next notThree =>
    have whole :
        ((v / 262144 * 64 + v / 4096 % 0x40) * 64 + v / 64 % 0x40) * 64 + v % 0x40 = v := by omega
    rw [List.cons_append, List.cons_append, List.cons_append, List.singleton_append,
      (opens_four (by omega) (by omega)).pieces (six (v / 4096)),
      owing_cons (six (v / 64)), owing_cons (six v), whole, owing, if_pos rfl, same]

theorem pieces_flatMap_utf8EncodeChar (cs : List Char) :
    pieces none (cs.flatMap String.utf8EncodeChar) = cs.map some := by
  induction cs with
  | nil => rfl
  | cons c cs ih => rw [List.flatMap_cons, pieces_utf8EncodeChar, ih, List.map_cons]

/-- **What is encoded is decoded.** -/
theorem decode?_encode (s : String) : decode? (encode s) = some s := by
  have all (cs : List Char) : (cs.map some).mapM id = some cs := by
    induction cs with
    | nil => rfl
    | cons c cs ih => simp [ih]
  rw [decode?, encode, pieces_flatMap_utf8EncodeChar, all, Option.map_some, String.ofList_toList]

/-! ## A character at the end -/

theorem exists_mem_of_mapM {α β : Type} {f : α → Option β} {xs : List α} {ys : List β} {x : α}
    (found : xs.mapM f = some ys) (mem : x ∈ xs) : ∃ y ∈ ys, f x = some y := by
  induction xs generalizing ys with
  | nil => cases mem
  | cons a as ih =>
    rw [List.mapM_cons] at found
    obtain ⟨b, head, rest⟩ := Option.bind_eq_some_iff.1 found
    obtain ⟨bs, tail, last⟩ := Option.bind_eq_some_iff.1 rest
    cases last
    rcases List.mem_cons.1 mem with rfl | later
    · exact ⟨b, List.mem_cons_self, head⟩
    · obtain ⟨y, mem', some⟩ := ih tail later
      exact ⟨y, List.mem_cons_of_mem b mem', some⟩

/-- A byte that goes on with a character lies between these. -/
def Continues (state : Option Unfinished) : Prop := ∀ u ∈ state, 0x80 ≤ u.lo ∧ u.hi ≤ 0xBF

theorem range_of_start {b : UInt8} {u : Unfinished} (opens : start b = .opens u) :
    0x80 ≤ u.lo ∧ u.hi ≤ 0xBF := by
  have within {value owed : Nat} {lo hi : UInt8} (low : 0x80 ≤ lo) (high : hi ≤ 0xBF)
      (made : Lead.opens ⟨value, owed, lo, hi⟩ = .opens u) : 0x80 ≤ u.lo ∧ u.hi ≤ 0xBF := by
    rw [← Lead.opens.inj made]
    exact ⟨low, high⟩
  rw [start] at opens
  repeat' split at opens
  all_goals first
    | exact within (by decide) (by decide) opens
    | exact nomatch opens

theorem continues_fresh (b : UInt8) : Continues (fresh b).2 := by
  rw [fresh]
  cases shape : start b with
  | ascii c => exact fun u mem => nomatch mem
  | invalid => exact fun u mem => nomatch mem
  | opens u =>
    intro v mem
    cases mem
    exact range_of_start shape

theorem continues_step {state : Option Unfinished} (b : UInt8) : Continues (step state b).2 := by
  match state with
  | none => exact continues_fresh b
  | some u =>
    rw [step]
    split
    · dsimp only
      split
      · exact fun u mem => nomatch mem
      · intro v mem
        cases mem
        exact ⟨Nat.le_refl _, Nat.le_refl _⟩
    · exact continues_fresh b

/-- A character does not begin with a byte that goes on with another. -/
theorem exists_lead (c : Char) :
    ∃ b bs, String.utf8EncodeChar c = b :: bs ∧ (b < 0x80 ∨ 0xBF < b) := by
  have valid : c.val.toNat < 0xd800 ∨ 0xdfff < c.val.toNat ∧ c.val.toNat < 0x110000 := c.valid
  have low {n : Nat} (h : n < 0x80) : UInt8.ofNat n < 0x80 ∨ 0xBF < UInt8.ofNat n := by
    rw [UInt8.lt_iff_toNat_lt, toNat_byte (by omega)]
    exact Or.inl h
  have high {n : Nat} (h : 0xBF < n) (byte : n < 256) :
      UInt8.ofNat n < 0x80 ∨ 0xBF < UInt8.ofNat n := by
    rw [UInt8.lt_iff_toNat_lt (a := 0xBF), toNat_byte byte]
    exact Or.inr h
  rw [String.utf8EncodeChar]
  generalize c.val.toNat = v at valid ⊢
  show ∃ b bs, (if v ≤ 0x7f then _ else if v ≤ 0x7ff then _ else if v ≤ 0xffff then _ else _) =
    b :: bs ∧ _
  split
  · exact ⟨_, _, rfl, low (by omega)⟩
  split
  · exact ⟨_, _, rfl, high (by omega) (by omega)⟩
  split
  · exact ⟨_, _, rfl, high (by omega) (by omega)⟩
  · exact ⟨_, _, rfl, high (by omega) (by omega)⟩

theorem getLast?_pieces {state : Option Unfinished} (sound : Continues state) (bytes : List UInt8)
    (c : Char) :
    (pieces state (bytes ++ String.utf8EncodeChar c)).getLast? = some (some c) := by
  induction bytes generalizing state with
  | nil =>
    have alone : pieces none (String.utf8EncodeChar c) = [some c] := by
      have read := pieces_utf8EncodeChar c []
      rw [List.append_nil] at read
      exact read
    rw [List.nil_append]
    match state, sound with
    | none, _ => rw [alone, List.getLast?_singleton]
    | some u, sound =>
      obtain ⟨b, bs, form, lead⟩ := exists_lead c
      have range := sound u rfl
      have shut : ¬ (u.lo ≤ b && b ≤ u.hi) = true := by
        simp only [Bool.and_eq_true, decide_eq_true_eq, UInt8.le_iff_toNat_le,
          UInt8.lt_iff_toNat_lt] at lead range ⊢
        have low : (0x80 : UInt8).toNat = 0x80 := rfl
        have high : (0xBF : UInt8).toNat = 0xBF := rfl
        omega
      have skipped : pieces (some u) (b :: bs) = none :: pieces none (b :: bs) := by
        rw [pieces, step, if_neg shut]
        rfl
      rw [form, skipped, ← form, alone]
      rfl
  | cons b bytes ih =>
    rw [List.cons_append, pieces, List.getLast?_append, ih (continues_step b), Option.some_or]

/-- A character at the end of proper UTF-8 is read as such, whatever comes before it. -/
theorem mem_of_decode? {bytes : List UInt8} {text : String} {c : Char}
    (decoded : decode? (bytes ++ String.utf8EncodeChar c) = some text) : c ∈ text.toList := by
  rw [decode?, Option.map_eq_some_iff] at decoded
  obtain ⟨cs, all, rfl⟩ := decoded
  have ends : (pieces none (bytes ++ String.utf8EncodeChar c)).getLast? = some (some c) :=
    getLast?_pieces (fun u (mem : u ∈ none) => nomatch mem) bytes c
  obtain ⟨d, mem, same⟩ := exists_mem_of_mapM all (List.mem_of_getLast? ends)
  cases same
  rw [String.toList_ofList]
  exact mem

end VoiceTicket.Text.Utf8
