import ChatRelay.Stream.Flow
import ChatRelay.Text.Utf8

/-!
# Server-sent events

A stream of server-sent events is UTF-8 text in frames that end at a blank line. Of a frame only
its `data:` lines matter: their values, each without one space after the colon, joined by line
feeds, are the payload; a frame without such a line has none. Carriage returns are dropped
everywhere, so both line endings are read alike. The unterminated rest at the end of the stream is
a frame too.

`frame` writes a frame with an event name and a JSON payload.
-/

namespace ChatRelay.Sse

/-- A piece of the byte stream, or of the text when it is decoded already. -/
inductive Chunk where
  | bytes (bs : List UInt8)
  | text (t : Text)

/-- The line feed. -/
def lineFeed : CodeUnit := 10

/-- A text without carriage returns. -/
def withoutReturns (t : Text) : Text := t.filter (· ≠ 13)

/-- The value of a `data:` line. -/
def dataValue? (line : Text) : Option Text :=
  match Text.after? "data:" line with
  | none => none
  | some [] => some []
  | some (u :: r) => some (if u = Text.unit ' ' then r else u :: r)

/-- The payload of a frame. -/
def payload? (frame : Text) : Option Text :=
  match (Text.splitOn lineFeed frame).filterMap dataValue? with
  | [] => none
  | values => some (Text.joinWith [lineFeed] values)

/-- The pieces of a text that are terminated by two line feeds, and the rest behind them. -/
def pieces : Text → List Text × Text
  | [] => ([], [])
  | [u] => ([], [u])
  | u :: v :: r =>
    if u = lineFeed ∧ v = lineFeed then
      let (ps, rest) := pieces r
      ([] :: ps, rest)
    else
      match pieces (v :: r) with
      | ([], rest) => ([], u :: rest)
      | (p :: ps, rest) => ((u :: p) :: ps, rest)

/-- The state between two chunks: the bytes of an unfinished character and the text of an
unfinished frame. -/
structure Reader where
  decoder : Utf8.Decoder
  rest : Text

/-- The state before the first chunk. -/
def Reader.start : Reader := ⟨.fresh, []⟩

/-- Reads a chunk: the payloads of the frames that it completes. -/
def Reader.read (r : Reader) (chunk : Chunk) : Reader × List Text :=
  let (decoder, text) :=
    match chunk with
    | .bytes bs => r.decoder.run bs
    | .text t => (r.decoder, t)
  let (ps, rest) := pieces (r.rest ++ withoutReturns text)
  (⟨decoder, rest⟩, ps.filterMap payload?)

/-- The payload of what is left at the end. -/
def Reader.finish (r : Reader) : Option Text :=
  payload? (r.rest ++ withoutReturns r.decoder.flush)

/-- The payloads of a stream of chunks. -/
def payloads : Stage Effect Reader Chunk Text where
  start := .start
  react r chunk :=
    let (r, out) := r.read chunk
    .next r (out.map .yield)
  finish r := .ofList r.finish.toList none

/-- The payload that ends a stream. -/
def doneMark : Text := "[DONE]"

/-- The payloads before the first one that is `[DONE]`, white space around it allowed. -/
def untilDone : Stage Effect Unit Text Text where
  start := ()
  react _ payload := if payload.trim = doneMark then .stop [] none else .next () [.yield payload]
  finish _ := .done

/-- A frame with an event name and a payload. -/
def frame (event : Text) (payload : Json) : Text :=
  "event: " ++ event ++ "\ndata: " ++ payload.render ++ "\n\n"

end ChatRelay.Sse
