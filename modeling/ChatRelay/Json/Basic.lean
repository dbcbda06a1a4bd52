import ChatRelay.Number.Decimal

/-!
# JSON values

The data that passes through the relay without being understood: tool inputs, tool schemas, debug
data. The members of an object keep the order in which they were first written, except that keys
which are array indexes come first, in ascending order; `insert` maintains that order, and a
repeated key keeps its place and takes the last value.
-/

namespace ChatRelay

/-- A JSON value. -/
inductive Json where
  | null
  | bool (b : Bool)
  | num (x : Number)
  | str (s : Text)
  | arr (items : List Json)
  | obj (members : List (Text × Json))

namespace Json

instance : Inhabited Json := ⟨.null⟩

/-! ## Equality -/

mutual

/-- Equality of values is decidable. -/
def decEq : (a b : Json) → Decidable (a = b)
  | .null, .null => isTrue rfl
  | .bool a, .bool b => decidable_of_iff (a = b) (by simp)
  | .num a, .num b => decidable_of_iff (a = b) (by simp)
  | .str a, .str b => decidable_of_iff (a = b) (by simp)
  | .arr a, .arr b =>
    have := decEqItems a b
    decidable_of_iff (a = b) (by simp)
  | .obj a, .obj b =>
    have := decEqMembers a b
    decidable_of_iff (a = b) (by simp)
  | .null, .bool _ | .null, .num _ | .null, .str _ | .null, .arr _ | .null, .obj _
  | .bool _, .null | .bool _, .num _ | .bool _, .str _ | .bool _, .arr _ | .bool _, .obj _
  | .num _, .null | .num _, .bool _ | .num _, .str _ | .num _, .arr _ | .num _, .obj _
  | .str _, .null | .str _, .bool _ | .str _, .num _ | .str _, .arr _ | .str _, .obj _
  | .arr _, .null | .arr _, .bool _ | .arr _, .num _ | .arr _, .str _ | .arr _, .obj _
  | .obj _, .null | .obj _, .bool _ | .obj _, .num _ | .obj _, .str _ | .obj _, .arr _ =>
    isFalse (by simp)

/-- Equality of item lists. -/
def decEqItems : (a b : List Json) → Decidable (a = b)
  | [], [] => isTrue rfl
  | [], _ :: _ | _ :: _, [] => isFalse (by simp)
  | x :: a, y :: b =>
    have := decEq x y
    have := decEqItems a b
    decidable_of_iff (x = y ∧ a = b) (by simp)

/-- Equality of member lists. -/
def decEqMembers : (a b : List (Text × Json)) → Decidable (a = b)
  | [], [] => isTrue rfl
  | [], _ :: _ | _ :: _, [] => isFalse (by simp)
  | (j, x) :: a, (k, y) :: b =>
    have := decEq x y
    have := decEqMembers a b
    decidable_of_iff (j = k ∧ x = y ∧ a = b) (by simp [and_assoc])

end

instance : DecidableEq Json := decEq

/-! ## Members of an object -/

/-- The members of an object, in their order. -/
abbrev Members := List (Text × Json)

/-- The array index that a key spells in its canonical form, below 2³² - 1. -/
def arrayIndex? (key : Text) : Option Nat :=
  match key.mapM Text.digit? with
  | none => none
  | some digits =>
    let n := Text.digitsValue 10 digits
    if key = Text.ofNat n && n < 4294967295 then some n else none

/-- Whether a new key goes before a present one: an index before every key that is not a smaller
index. -/
def precedes (key present : Text) : Bool :=
  match arrayIndex? key, arrayIndex? present with
  | some i, some j => i < j
  | some _, none => true
  | none, _ => false

/-- Adds a member with a new key at its place. -/
def place {α : Type} (key : Text) (value : α) : List (Text × α) → List (Text × α)
  | [] => [(key, value)]
  | (k, v) :: ms =>
    if precedes key k then (key, value) :: (k, v) :: ms else (k, v) :: place key value ms

/-- Gives a present key a new value. -/
def assign {α : Type} (key : Text) (value : α) : List (Text × α) → List (Text × α)
  | [] => []
  | (k, v) :: ms => if k = key then (k, value) :: ms else (k, v) :: assign key value ms

/-- The value of a key. -/
def lookup {α : Type} (key : Text) : List (Text × α) → Option α
  | [] => none
  | (k, v) :: ms => if k = key then some v else lookup key ms

/-- Sets the value of a key. -/
def insert {α : Type} (ms : List (Text × α)) (key : Text) (value : α) : List (Text × α) :=
  if (lookup key ms).isSome then assign key value ms else place key value ms

/-- The members that result from setting keys one after another. -/
def ofPairs (pairs : List (Text × Json)) : Members :=
  pairs.foldl (fun ms m => insert ms m.1 m.2) []

/-- An object whose keys are given in their final order, with the absent members left out. -/
def object (fields : List (String × Option Json)) : Json :=
  .obj (fields.filterMap fun (key, value) => value.map fun v => (Text.ofString key, v))

/-- The members without a key. -/
def without {α : Type} (key : Text) (ms : List (Text × α)) : List (Text × α) :=
  ms.filter fun m => m.1 ≠ key

/-- A member of an object. -/
def get? (key : Text) : Json → Option Json
  | .obj ms => lookup key ms
  | _ => none

/-- Whether two values are the same scalar; arrays and objects are never the same. -/
def sameScalar : Json → Json → Bool
  | .null, .null => true
  | .bool a, .bool b => a == b
  | .num a, .num b => a.sameValue b
  | .str a, .str b => a == b
  | _, _ => false

/-- The text of a string. -/
def text? : Json → Option Text
  | .str s => some s
  | _ => none

/-- Whether a value counts as said: all do but `null`, `false`, zero, NaN and the empty string. -/
def isSaid : Json → Bool
  | .null => false
  | .bool b => b
  | .num .nan => false
  | .num (.finite _ m _) => m != 0
  | .num (.infinite _) => true
  | .str s => !s.isEmpty
  | .arr _ => true
  | .obj _ => true

/-- How long a value is: the items of an array, the units of a string, or what an object says under
`length`. Other values have no length. -/
def length? : Json → Option Json
  | .str s => some (.num (Number.ofNat s.length))
  | .arr items => some (.num (Number.ofNat items.length))
  | .obj ms => lookup "length" ms
  | _ => none

/-- A natural number as a JSON number. -/
def ofNat (n : Nat) : Json := .num (Number.ofNat n)

/-- A text, or `null` where there is none. -/
def ofText? : Option Text → Json
  | some t => .str t
  | none => .null

end Json

end ChatRelay
