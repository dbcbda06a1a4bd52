import ChatRelay.Json.Basic

/-!
# Members that may be missing

A member of an object may be missing, `null`, or have a value, and all three differ where the object
is written again. Laying one field over another takes the upper one if it has a value and else the
lower one, whatever that is.
-/

namespace ChatRelay

/-- What an object says under a key. -/
inductive Field (α : Type) where
  | missing
  | null
  | value (x : α)
  deriving DecidableEq

namespace Field

variable {α β : Type}

instance : Inhabited (Field α) := ⟨.missing⟩

/-- The upper field if it has a value, else the lower one. -/
def above : Field α → Field α → Field α
  | .value x, _ => .value x
  | _, lower => lower

/-- The field if it says anything, else the lower one. -/
def orElse : Field α → Field α → Field α
  | .missing, lower => lower
  | f, _ => f

/-- The field unless it says `null`, else the lower one. -/
def unlessNull : Field α → Field α → Field α
  | .null, lower => lower
  | f, _ => f

/-- The value, if there is one. -/
def value? : Field α → Option α
  | .value x => some x
  | _ => none

/-- The value, or another one in its place. -/
def getD (f : Field α) (default : α) : α := f.value?.getD default

/-- Changes the value. -/
def map (f : α → β) : Field α → Field β
  | .missing => .missing
  | .null => .null
  | .value x => .value (f x)

/-- The field of what may have a value and is not `null`. -/
def ofOption : Option α → Field α
  | none => .missing
  | some x => .value x

/-- The field of what is `null` where it has no value. -/
def orNull : Option α → Field α
  | none => .null
  | some x => .value x

/-- How a field is written. -/
def toJson? (write : α → Json) : Field α → Option Json
  | .missing => none
  | .null => some .null
  | .value x => some (write x)

/-- The field that a member is, whatever its value. -/
def ofJson : Option Json → Field Json
  | none => .missing
  | some .null => .null
  | some v => .value v

/-- A field of any value as it is written. -/
def json? (f : Field Json) : Option Json := f.toJson? id

theorem above_assoc (f g h : Field α) : (f.above g).above h = f.above (g.above h) := by
  cases f <;> cases g <;> rfl

theorem json?_ofJson (v : Option Json) : (ofJson v).json? = v := by
  cases v with
  | none => rfl
  | some v => cases v <;> rfl

end Field

end ChatRelay
