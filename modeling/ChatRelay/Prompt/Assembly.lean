import ChatRelay.Json.Plain
import ChatRelay.Json.Reader
import ChatRelay.Request

/-!
# Tool calls from pieces

A message that was streamed holds its tool calls in pieces. A piece belongs to the first call that
has its id and its index, as far as the piece has them; a piece that belongs to no call begins a new
one. The texts of the pieces in a row are the arguments. If that text was cut short, the strings and
brackets that are open at its end are closed. A call without an id, or whose arguments are no object,
is dropped.
-/

namespace ChatRelay

/-- A piece of a tool call. -/
structure ToolCallPiece where
  id : Option Json
  name : Option Json
  arguments : Option Json
  index : Option Json
  deriving DecidableEq

namespace ToolCallPiece

/-- Whether a member is there and the same scalar as another one. -/
def agrees (a b : Option Json) : Bool :=
  match a, b with
  | some x, some y => x.sameScalar y
  | _, _ => false

/-- Whether a piece belongs to the call that another piece began. -/
def belongsTo (piece first : ToolCallPiece) : Bool :=
  match piece.id.filter Json.isSaid, piece.index with
  | some id, some _ => agrees (some id) first.id && agrees piece.index first.index
  | some id, none => agrees (some id) first.id
  | none, some _ => agrees piece.index first.index
  | none, none => false

/-- Adds a piece to the calls so far, each of which is its first piece and the others. -/
def add (piece : ToolCallPiece) :
    List (ToolCallPiece × List ToolCallPiece) → List (ToolCallPiece × List ToolCallPiece)
  | [] => [(piece, [])]
  | (first, others) :: calls =>
    if piece.belongsTo first then (first, others ++ [piece]) :: calls
    else (first, others) :: add piece calls

/-- The text that a piece adds to the arguments. -/
def argumentText (piece : ToolCallPiece) : Text :=
  ((piece.arguments.filter Json.isSaid).bind Json.plain?).getD []

end ToolCallPiece

/-! ## Arguments that were cut short -/

/-- The reading of a JSON text up to some point: what has been copied, in reverse, the brackets that
would close what is open, the innermost first, and whether the point is inside of a string and
behind a backslash there. -/
structure CutText where
  copied : Text
  closers : Text
  inString : Bool
  escaped : Bool

namespace CutText

/-- Before the text. -/
def start : CutText := ⟨[], [], false, false⟩

/-- One unit inside of a string. A line feed is written as an escape. -/
def stepInside (s : CutText) (u : CodeUnit) : CutText :=
  if u = Text.unit '"' ∧ ¬s.escaped then { s with copied := u :: s.copied, inString := false }
  else if u = 10 ∧ ¬s.escaped then
    { s with copied := Text.unit 'n' :: Text.unit '\\' :: s.copied }
  else if u = Text.unit '\\' then { s with copied := u :: s.copied, escaped := !s.escaped }
  else { s with copied := u :: s.copied, escaped := false }

/-- One unit outside of strings. A bracket that closes something else than what was opened last is
an error. -/
def stepOutside (s : CutText) (u : CodeUnit) : Option CutText :=
  let s' := { s with copied := u :: s.copied }
  if u = Text.unit '"' then some { s' with inString := true, escaped := false }
  else if u = Text.unit '\x7b' then some { s' with closers := Text.unit '\x7d' :: s.closers }
  else if u = Text.unit '[' then some { s' with closers := Text.unit ']' :: s.closers }
  else if u = Text.unit '\x7d' ∨ u = Text.unit ']' then
    match s.closers with
    | c :: closers => if c = u then some { s' with closers := closers } else none
    | [] => none
  else some s'

/-- One unit. -/
def step (s : CutText) (u : CodeUnit) : Option CutText :=
  if s.inString then some (s.stepInside u) else s.stepOutside u

/-- The text with everything closed. -/
def closed (s : CutText) : Text :=
  s.copied.reverse ++ (if s.inString then [Text.unit '"'] else []) ++ s.closers

end CutText

/-- The value of a JSON text that may have been cut short. -/
def Json.parseCut? (t : Text) : Option Json :=
  match Json.parse? t with
  | some v => some v
  | none => (t.foldlM CutText.step CutText.start).bind fun s => Json.parse? s.closed

/-- The call that a first piece and the others amount to. -/
def ToolCall.ofPieces? (first : ToolCallPiece) (others : List ToolCallPiece) : Option ToolCall :=
  let joined := Text.trim ((first :: others).flatMap ToolCallPiece.argumentText)
  match first.id.filter Json.isSaid, if joined.isEmpty then some (.obj []) else Json.parseCut? joined with
  | some id, some (.obj ms) =>
    let name := (first.name.filter (· ≠ .null)).getD (.str [])
    some ⟨some id, some name, some (.obj ms)⟩
  | _, _ => none

/-- The calls that pieces amount to. -/
def ToolCall.assemble (pieces : List ToolCallPiece) : List ToolCall :=
  (pieces.foldl (fun calls p => p.add calls) []).filterMap fun (first, others) =>
    ToolCall.ofPieces? first others

end ChatRelay
