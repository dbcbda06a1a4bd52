import ChatRelay.Yaml.Scalar

/-!
# YAML nodes

A node is what a document says, before aliases are followed. It keeps what is needed to write it
again: the tag, the comments around it, how a scalar was written. An anchored node and an alias know
their places, because an alias stands for the last node before it that has its anchor
(`Node.target?`).
-/

namespace ChatRelay.Yaml

/-- The name of a node, and where it is given. -/
structure Anchor where
  name : Text
  place : Nat
  deriving DecidableEq, Repr

/-- What stands around a node: whether an empty line is in front of it, and the comments in front of
it and behind it. -/
structure Notes where
  spaced : Bool := false
  before : Text := []
  behind : Text := []
  deriving DecidableEq, Repr

/-- Adds a line to a comment. -/
def addLine (line comment : Text) : Text :=
  if comment.isEmpty then line else comment ++ [10] ++ line

/-- What a node has besides its content. -/
structure NodeInfo where
  anchor : Option Anchor := none
  tag : Option Text := none
  notes : Notes := {}
  deriving DecidableEq, Repr

/-- How a scalar was written. -/
inductive ScalarStyle where
  | plain
  | singleQuoted
  | doubleQuoted
  | literal
  | folded
  deriving DecidableEq, Repr

/-- The content of a scalar: its text, what that means, and how it was written. -/
structure ScalarContent where
  text : Text
  reading : Reading
  style : ScalarStyle
  deriving DecidableEq

mutual

/-- A node of a document. A list may hold pairs; if it is ordered, its pairs are the entries of a map
whose order counts. A map may be a set, whose entries are keys alone. -/
inductive Node where
  | alias (name : Text) (place : Nat) (notes : Notes)
  | scalar (info : NodeInfo) (content : ScalarContent)
  | list (info : NodeInfo) (ordered : Bool) (items : List Node)
  | map (info : NodeInfo) (isSet : Bool) (entries : List Entry)
  | pair (entry : Entry)

/-- An entry of a map: a key, and perhaps a value. -/
inductive Entry where
  | lone (key : Node)
  | full (key value : Node)

end

namespace Entry

/-- The key of an entry. -/
def key : Entry → Node
  | .lone key => key
  | .full key _ => key

/-- The value of an entry. -/
def value? : Entry → Option Node
  | .lone _ => none
  | .full _ value => some value

/-- The entry of a key and perhaps a value. -/
def of (key : Node) : Option Node → Entry
  | none => .lone key
  | some value => .full key value

end Entry

namespace Node

/-- What a node has besides its content; a pair has nothing. -/
def info : Node → NodeInfo
  | .alias _ _ notes => { notes := notes }
  | .scalar info _ => info
  | .list info _ _ => info
  | .map info _ _ => info
  | .pair _ => {}

/-- What stands around a node. -/
def notes (node : Node) : Notes := node.info.notes

/-- Changes what a node has besides its content; of an alias only what stands around it. -/
def mapInfo (f : NodeInfo → NodeInfo) : Node → Node
  | .alias name place notes => .alias name place (f { notes := notes }).notes
  | .scalar info content => .scalar (f info) content
  | .list info ordered items => .list (f info) ordered items
  | .map info isSet entries => .map (f info) isSet entries
  | .pair entry => .pair entry

/-- Changes what stands around a node. -/
def mapNotes (f : Notes → Notes) (node : Node) : Node :=
  node.mapInfo fun info => { info with notes := f info.notes }

/-- Adds a comment behind a node. -/
def withComment (comment : Text) (node : Node) : Node :=
  if comment.isEmpty then node
  else node.mapNotes fun notes => { notes with behind := addLine comment notes.behind }

/-- Whether a node is a list or a map. -/
def isCollection : Node → Bool
  | .list _ _ _ => true
  | .map _ _ _ => true
  | _ => false

/-- Whether two keys are the same: scalars with the same value. -/
def sameKey : Node → Node → Bool
  | .scalar _ a, .scalar _ b =>
    match a.reading.value, b.reading.value with
    | .null, .null => true
    | .bool x, .bool y => x == y
    | .number x, .number y => x.sameValue y
    | .text x, .text y => x == y
    | _, _ => false
  | _, _ => false

/-! ## Anchors -/

mutual

/-- The nodes with anchors, in the order of the document. -/
def anchored : Node → List (Anchor × Node)
  | .alias _ _ _ => []
  | .scalar info content => (info.anchor.map fun a => (a, .scalar info content)).toList
  | .list info ordered items =>
    (info.anchor.map fun a => (a, .list info ordered items)).toList ++ anchoredItems items
  | .map info isSet entries =>
    (info.anchor.map fun a => (a, .map info isSet entries)).toList ++ anchoredEntries entries
  | .pair entry => anchoredEntry entry

/-- The anchored nodes of items. -/
def anchoredItems : List Node → List (Anchor × Node)
  | [] => []
  | x :: xs => anchored x ++ anchoredItems xs

/-- The anchored nodes of an entry. -/
def anchoredEntry : Entry → List (Anchor × Node)
  | .lone key => anchored key
  | .full key value => anchored key ++ anchored value

/-- The anchored nodes of entries. -/
def anchoredEntries : List Entry → List (Anchor × Node)
  | [] => []
  | e :: es => anchoredEntry e ++ anchoredEntries es

end

/-- The node that an alias at some place stands for, among those with anchors. -/
def target? (index : List (Anchor × Node)) (name : Text) (place : Nat) : Option (Anchor × Node) :=
  (index.filter fun (a, _) => a.name == name && a.place < place).getLast?

mutual

/-- The number of nodes of a node, itself included. -/
def size : Node → Nat
  | .alias _ _ _ => 1
  | .scalar _ _ => 1
  | .list _ _ items => sizeOfItems items + 1
  | .map _ _ entries => sizeOfEntries entries + 1
  | .pair entry => sizeOfEntry entry + 1

/-- The number of nodes of items. -/
def sizeOfItems : List Node → Nat
  | [] => 0
  | x :: xs => size x + sizeOfItems xs

/-- The number of nodes of an entry. -/
def sizeOfEntry : Entry → Nat
  | .lone key => size key
  | .full key value => size key + size value

/-- The number of nodes of entries. -/
def sizeOfEntries : List Entry → Nat
  | [] => 0
  | e :: es => sizeOfEntry e + sizeOfEntries es

end

end Node

end ChatRelay.Yaml
