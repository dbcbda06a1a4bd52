import ChatRelay.Yaml.Lexeme

/-!
# Outlines of YAML documents

An outline shows how the lexemes of a document belong together, with all white space and comments in
the place where they stand. It does not say what a node means, nor whether all of it may stand where
it does: properties, indicators and what surrounds them are lists of lexemes, in order.
-/

namespace ChatRelay.Yaml

/-- An item of a collection: what stands before its key, the key, what stands between key and value,
and the value. The item of a list that is no pair has a value alone. An item without separator has
no key yet. -/
structure OutlineItem (α : Type) where
  start : List Lexeme := []
  explicit : Bool := false
  key : Option α := none
  separator : Option (List Lexeme) := none
  value : Option α := none

/-- A node as its lexemes show it. -/
inductive Outline where
  | scalar (head : Lexeme) (tail : List Lexeme)
  | block (offset indent : Nat) (header : List Lexeme) (text : Text)
  | map (offset indent : Nat) (items : List (OutlineItem Outline))
  | list (offset indent : Nat) (items : List (OutlineItem Outline))
  | flow (opening : Lexeme) (indent : Nat) (items : List (OutlineItem Outline))
    (tail : List Lexeme)

/-- A document: what stands before its node, the node, and what stands behind it. -/
structure DocumentOutline where
  offset : Nat
  start : List Lexeme := []
  value : Option Outline := none
  tail : List Lexeme := []

/-- A part of a text with documents. -/
inductive Section where
  | directive (line : Lexeme)
  | document (outline : DocumentOutline)
  | ending (mark : Lexeme) (tail : List Lexeme)

/-- A list with its last element changed. -/
def modifyLast {α : Type} (f : α → α) : List α → List α
  | [] => []
  | [x] => [f x]
  | x :: y :: xs => x :: modifyLast f (y :: xs)

namespace Outline

/-- The place where a node begins. -/
def offset : Outline → Nat
  | .scalar head _ => head.offset
  | .block offset _ _ _ => offset
  | .map offset _ _ => offset
  | .list offset _ _ => offset
  | .flow opening _ _ _ => opening.offset

/-- The indentation of a node. -/
def indent : Outline → Nat
  | .scalar head _ => head.indent
  | .block _ indent _ _ => indent
  | .map _ indent _ => indent
  | .list _ indent _ => indent
  | .flow _ indent _ _ => indent

/-- Whether a node is a scalar, other than a block scalar, or stands in brackets. -/
def isInline : Outline → Bool
  | .scalar _ _ => true
  | .flow _ _ _ _ => true
  | _ => false

/-- Whether a node is a map or a list without brackets. -/
def isBlock : Outline → Bool
  | .map _ _ _ => true
  | .list _ _ _ => true
  | _ => false

/-- Adds lexemes behind a node; a collection without brackets and a block scalar have none. -/
def withTail (more : List Lexeme) : Outline → Outline
  | .scalar head tail => .scalar head (tail ++ more)
  | .flow opening indent items tail => .flow opening indent items (tail ++ more)
  | outline => outline

/-- What stands behind a node. -/
def tail : Outline → List Lexeme
  | .scalar _ tail => tail
  | .flow _ _ _ tail => tail
  | _ => []

end Outline

end ChatRelay.Yaml
