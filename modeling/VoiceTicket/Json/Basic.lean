/-
  JSON values.

  1. **Data** — `Json` is the usual tree.  A number is an integer or a double, as it was written
     (`Number`); an object is a list of named values.

  2. **Specification** — what is read from a text (`Json.ofMembers`) has its keys in increasing
     order and each of them once, the last occurrence deciding; that is the order in which typed
     readings visit the fields and in which a value is printed.  A value that this program builds
     itself keeps the order it was built in.

  3. **Crux** — `insert` into a list in increasing order: the key's own value is found again and
     no other is touched (`find?_insert_self`, `find?_insert_of_ne`).
-/
import VoiceTicket.Binary64

namespace VoiceTicket

/-- A number is an integer in the range of 64 bits, signed or unsigned, or a double. -/
inductive Number where
  | int (value : Int)
  | float (value : Binary64)
deriving DecidableEq, Repr

/-- A JSON value. -/
inductive Json where
  | null
  | bool (value : Bool)
  | num (value : Number)
  | str (value : String)
  | arr (items : List Json)
  | obj (members : List (String × Json))
deriving Inhabited, Repr

namespace Json

/-! ## Members of an object -/

/-- The value under a key. -/
def find? (key : String) : List (String × Json) → Option Json
  | [] => none
  | (k, v) :: rest => if k = key then some v else find? key rest

/-- Sets the value under a key, keeping keys that increase increasing. -/
def insert (key : String) (value : Json) : List (String × Json) → List (String × Json)
  | [] => [(key, value)]
  | (k, v) :: rest =>
    if key = k then (key, value) :: rest
    else if key < k then (key, value) :: (k, v) :: rest
    else (k, v) :: insert key value rest

/-- The object with some members, keys in increasing order, the last value under each. -/
def ofMembers (members : List (String × Json)) : Json :=
  .obj (members.foldl (fun acc m => insert m.1 m.2 acc) [])

/-- The value of a field, if the value is an object that has it. -/
def field? (key : String) : Json → Option Json
  | .obj members => find? key members
  | _ => none

/-- The text, if the value is one. -/
def text? : Json → Option String
  | .str s => some s
  | _ => none

/-- Whether the value is an object. -/
def isObject : Json → Bool
  | .obj _ => true
  | _ => false

/-- An integer as a value. -/
def ofInt (i : Int) : Json := .num (.int i)

/-- A natural number as a value. -/
def ofNat (n : Nat) : Json := .num (.int n)

/-- A value that may be missing; its absence is `null`. -/
def ofOption (f : α → Json) : Option α → Json
  | none => .null
  | some a => f a

theorem find?_insert_self (key : String) (value : Json) (ms : List (String × Json)) :
    find? key (insert key value ms) = some value := by
  induction ms with
  | nil => simp [insert, find?]
  | cons m rest ih =>
    obtain ⟨k, v⟩ := m
    by_cases h : key = k
    · simp [insert, find?, h]
    · have h' : ¬k = key := fun e => h e.symm
      by_cases lt : key < k <;> simp [insert, find?, h, h', lt, ih]

theorem find?_insert_of_ne {key other : String} (ne : other ≠ key) (value : Json)
    (ms : List (String × Json)) : find? other (insert key value ms) = find? other ms := by
  have ne' : ¬key = other := fun e => ne e.symm
  induction ms with
  | nil => simp [insert, find?, ne']
  | cons m rest ih =>
    obtain ⟨k, v⟩ := m
    by_cases h : key = k
    · subst h; simp [insert, find?, ne']
    · by_cases lt : key < k <;> simp [insert, find?, h, lt, ih, ne']

/-! ## Equality -/

mutual

/-- Values are equal when they have the same shape and the same leaves. -/
def decEq : (a b : Json) → Decidable (a = b)
  | .null, .null => isTrue rfl
  | .bool a, .bool b => if h : a = b then isTrue (h ▸ rfl) else isFalse (by simp [h])
  | .num a, .num b => if h : a = b then isTrue (h ▸ rfl) else isFalse (by simp [h])
  | .str a, .str b => if h : a = b then isTrue (h ▸ rfl) else isFalse (by simp [h])
  | .arr a, .arr b =>
    match decEqItems a b with
    | isTrue h => isTrue (h ▸ rfl)
    | isFalse h => isFalse (by simp [h])
  | .obj a, .obj b =>
    match decEqMembers a b with
    | isTrue h => isTrue (h ▸ rfl)
    | isFalse h => isFalse (by simp [h])
  | .null, .bool _ | .null, .num _ | .null, .str _ | .null, .arr _ | .null, .obj _
  | .bool _, .null | .bool _, .num _ | .bool _, .str _ | .bool _, .arr _ | .bool _, .obj _
  | .num _, .null | .num _, .bool _ | .num _, .str _ | .num _, .arr _ | .num _, .obj _
  | .str _, .null | .str _, .bool _ | .str _, .num _ | .str _, .arr _ | .str _, .obj _
  | .arr _, .null | .arr _, .bool _ | .arr _, .num _ | .arr _, .str _ | .arr _, .obj _
  | .obj _, .null | .obj _, .bool _ | .obj _, .num _ | .obj _, .str _ | .obj _, .arr _ =>
    isFalse (by simp)

/-- Equality of the items of two arrays. -/
def decEqItems : (a b : List Json) → Decidable (a = b)
  | [], [] => isTrue rfl
  | x :: xs, y :: ys =>
    match decEq x y, decEqItems xs ys with
    | isTrue h, isTrue hs => isTrue (h ▸ hs ▸ rfl)
    | isFalse h, _ => isFalse (by simp [h])
    | _, isFalse hs => isFalse (by simp [hs])
  | [], _ :: _ => isFalse (by simp)
  | _ :: _, [] => isFalse (by simp)

/-- Equality of the members of two objects. -/
def decEqMembers : (a b : List (String × Json)) → Decidable (a = b)
  | [], [] => isTrue rfl
  | (k, x) :: xs, (l, y) :: ys =>
    match decEq x y, decEqMembers xs ys with
    | isTrue h, isTrue hs =>
      if hk : k = l then isTrue (hk ▸ h ▸ hs ▸ rfl) else isFalse (by simp [hk])
    | isFalse h, _ => isFalse (by simp [h])
    | _, isFalse hs => isFalse (by simp [hs])
  | [], _ :: _ => isFalse (by simp)
  | _ :: _, [] => isFalse (by simp)

end

instance : DecidableEq Json := decEq

example : ofMembers [("b", .null), ("a", .bool true), ("b", .str "x")] =
    .obj [("a", .bool true), ("b", .str "x")] := by decide

end Json

end VoiceTicket
