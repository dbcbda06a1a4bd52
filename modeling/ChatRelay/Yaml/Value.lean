import ChatRelay.Json.Plain
import ChatRelay.Text.Utf8
import ChatRelay.Validation
import ChatRelay.Yaml.Scalar

/-!
# YAML values

The data that a YAML document gives. Besides what JSON has, there are moments, bytes, sets and
maps whose order counts, and the merge key where it stands for nothing. `Value.shape` is what a check
sees of a value, `Value.toJson?` what is left of it when it is sent: a moment becomes its text, bytes
become a list of numbers in an object that says so, sets and ordered maps become empty objects, and
the merge key nothing.
-/

namespace ChatRelay.Yaml

/-- A value. -/
inductive Value where
  | null
  | bool (b : Bool)
  | num (x : Number)
  | str (t : Text)
  | merge
  | moment (m : Calendar.Moment)
  | bytes (bs : List UInt8)
  | arr (items : List Value)
  | obj (members : List (Text × Value))
  | set (items : List Value)
  | orderedMap

namespace Value

instance : Inhabited Value := ⟨.null⟩

/-- The value of a scalar. -/
def ofScalar : ScalarValue → Value
  | .null => .null
  | .bool b => .bool b
  | .number x => .num x
  | .text t => .str t
  | .merge => .merge
  | .moment m => .moment m
  | .bytes bs => .bytes bs

/-- What a value looks like from outside. Bytes look like an object with their positions as keys. -/
def shape : Value → Shape Value
  | .null => .null
  | .bool b => .bool b
  | .num x => .num x
  | .str t => .str t
  | .merge => .other .symbol
  | .moment _ => .other .date
  | .bytes bs => .obj (bs.zipIdx.map fun (b, i) => (Text.ofNat i, .num (.ofNat b.toNat)))
  | .arr items => .arr items
  | .obj members => .obj members
  | .set _ => .other .set
  | .orderedMap => .other .map

instance : Shaped Value := ⟨shape⟩

/-! ## As JSON -/

/-- Bytes as JSON. -/
def bytesToJson (bs : List UInt8) : Json :=
  .object [("type", some (.str "Buffer")), ("data", some (.arr (bs.map fun b => .ofNat b.toNat)))]

mutual

/-- A value as JSON, if anything is left of it. -/
def toJson? : Value → Option Json
  | .null => some .null
  | .bool b => some (.bool b)
  | .num x => some (.num x)
  | .str t => some (.str t)
  | .merge => none
  | .moment m => some (.str (Calendar.isoText m))
  | .bytes bs => some (bytesToJson bs)
  | .arr items => some (.arr (itemsToJson items))
  | .obj members => some (.obj (membersToJson members))
  | .set _ => some (.obj [])
  | .orderedMap => some (.obj [])

/-- Items as JSON; one of which nothing is left becomes null. -/
def itemsToJson : List Value → List Json
  | [] => []
  | x :: xs => x.toJson?.getD .null :: itemsToJson xs

/-- Members as JSON, without those of which nothing is left. -/
def membersToJson : List (Text × Value) → List (Text × Json)
  | [] => []
  | (key, x) :: ms =>
    match x.toJson? with
    | some json => (key, json) :: membersToJson ms
    | none => membersToJson ms

end

/-! ## As text -/

/-- The name of the merge key where it is a key of its own. -/
def mergeName : Text := "Symbol(<<)"

mutual

/-- The text of a value where it names a member, if it has one; merge keys have none. -/
def plain? : Value → Option Text
  | .null => some "null"
  | .bool b => some (if b then "true" else "false")
  | .num x => some x.render
  | .str t => some t
  | .merge => none
  | .moment m => some (Calendar.longText m)
  | .bytes bs => some (Utf8.decode bs)
  | .arr items => plainItems? items
  | .obj members => if (Json.lookup Json.textKey members).isSome then none else some Json.objectPhrase
  | .set _ => some "[object Set]"
  | .orderedMap => some "[object Map]"

/-- The texts of items with commas between them; null has the empty one. -/
def plainItems? : List Value → Option Text
  | [] => some []
  | [x] => plainItem? x
  | x :: y :: xs =>
    match plainItem? x, plainItems? (y :: xs) with
    | some t, some ts => some (t ++ "," ++ ts)
    | _, _ => none

/-- The text of an item. -/
def plainItem? : Value → Option Text
  | .null => some []
  | .bool b => some (if b then "true" else "false")
  | .num x => some x.render
  | .str t => some t
  | .merge => none
  | .moment m => some (Calendar.longText m)
  | .bytes bs => some (Utf8.decode bs)
  | .arr items => plainItems? items
  | .obj members => if (Json.lookup Json.textKey members).isSome then none else some Json.objectPhrase
  | .set _ => some "[object Set]"
  | .orderedMap => some "[object Map]"

end

/-- Whether two keys are the same scalar. What is no number equals itself. -/
def sameScalar : Value → Value → Bool
  | .null, .null => true
  | .bool a, .bool b => a == b
  | .num .nan, .num .nan => true
  | .num a, .num b => a.sameValue b
  | .str a, .str b => a == b
  | _, _ => false

end Value

end ChatRelay.Yaml
