import ChatRelay.Prompt
import ChatRelay.Threads
import ChatRelay.Stream.Flow

/-!
# The model as seen by a chat framework

A call of the model takes a prompt and options, sends one request and gives either the whole answer
(`generation`) or a stream of chunks (`chunks`). A chunk carries a piece of text, one whole tool
call, or, at the end of a message, the token counts and what is known about its end. Tool calls are
numbered in the order in which they arrive.
-/

namespace ChatRelay

/-- What one call asks for: tools and stop sequences of its own, and a layer of options. -/
structure CallOptions where
  tools : Option (List Tool) := none
  stop : List Json := []
  options : Options := {}

/-- The layer of options of a call. Its own tools and stop sequences take the place of those in the
layer that it came with. -/
def CallOptions.layer (call : CallOptions) : Options :=
  { call.options with
    tools := call.tools <|> call.options.tools
    stopSequences := if call.stop.isEmpty then call.options.stopSequences else some call.stop }

/-- The token counts of an answer and their sum. -/
structure UsageTotals where
  input : Field Number
  output : Field Number
  total : Number
  deriving DecidableEq

/-- What a count adds to a sum: nothing if it is `null`, and no sum is a number if it is missing. -/
def Field.addend : Field Number → Number
  | .missing => .nan
  | .null => .zero false
  | .value x => x

/-- The token counts of a response with their sum. -/
def Usage.totals (u : Usage) : UsageTotals := ⟨u.input, u.output, u.input.addend + u.output.addend⟩

/-- What is known about the end of an answer. -/
structure Ending where
  model : Text
  stopReason : Field Text
  stopSequence : Field Text
  deriving DecidableEq

/-- What a response says about its end. -/
def Response.ending (r : Response) : Ending := ⟨r.model, r.stopReason, r.stopSequence⟩

/-- The text of a response: the texts of its blocks in a row. -/
def Response.text (r : Response) : Text := r.content.flatMap Block.textPart

/-- The answer of a call that does not stream. -/
structure Generation where
  id : Text
  text : Text
  toolCalls : List ToolUse
  usage : UsageTotals
  ending : Ending
  deriving DecidableEq

/-- The answer that a response amounts to. -/
def Response.generation (r : Response) : Generation where
  id := r.id
  text := r.text
  toolCalls := r.content.filterMap Block.tool?
  usage := r.usage.totals
  ending := r.ending

/-- An answer as a message of a later prompt. -/
def Generation.toPrompt (g : Generation) : PromptMessage :=
  .assistant (.str g.text) (g.toolCalls.map ToolUse.toCall)

/-- A tool call inside of a chunk, its arguments as the text of a JSON object. -/
structure ToolCallChunk where
  id : Text
  name : Text
  arguments : Text
  index : Nat
  deriving DecidableEq

/-- A piece of a streamed answer. -/
structure ModelChunk where
  id : Text
  text : Text := []
  toolCall : Option ToolCallChunk := none
  usage : Option UsageTotals := none
  ending : Option Ending := none
  deriving DecidableEq

/-- What streaming an answer does besides giving chunks: what the source does, and telling a
listener about every piece of text. -/
inductive ModelEffect where
  | source (e : Effect)
  | token (text : Text)

namespace ModelChunk

/-- What happens for a block of a response. The listener hears of a text after its chunk is out. -/
def ofBlock (id : Text) (next : Nat) (b : Block) : Nat × List (Act ModelEffect ModelChunk) :=
  match b.tool? with
  | none => (next, [.yield { id := id, text := b.textPart }, .effect (.token b.textPart)])
  | some tool =>
    (next + 1,
      [.effect (.source (.log (.debug "Tool use received"
        [("id", some (.str tool.id)), ("name", some (.str tool.name))]))),
      .yield { id := id, toolCall := some ⟨tool.id, tool.name, (Json.obj tool.input).render, next⟩ }])

/-- What happens for a list of blocks. -/
def ofBlocks (id : Text) : Nat → List Block → Nat × List (Act ModelEffect ModelChunk)
  | next, [] => (next, [])
  | next, b :: bs =>
    let (next, acts) := ofBlock id next b
    let (next, more) := ofBlocks id next bs
    (next, acts ++ more)

/-- The chunks of a stream of responses; the state is the number of the next tool call. -/
def stage : Stage ModelEffect Nat Response ModelChunk where
  start := 0
  react next r :=
    if r.isFinal then
      .next next [.yield { id := r.id, usage := some r.usage.totals, ending := some r.ending }]
    else
      let (next, acts) := ofBlocks r.id next r.content
      .next next acts
  finish _ := .done

end ModelChunk

/-- A model with the options that hold for all its calls. -/
structure ChatModel where
  defaults : Options

namespace ChatModel

/-- A model whose options lie over the built-in ones. -/
def create (defaults : Options) : ChatModel := ⟨defaults.resolve⟩

/-- The request of a call and the model that it goes to. -/
def request (m : ChatModel) (prompt : List PromptMessage) (call : CallOptions) (stream : Bool) :
    Except Failure (Field Json × Request) := do
  let options := call.layer.above m.defaults
  let (system, messages) ← Prompt.toConversation prompt
  return (options.model, Request.build (some (Message.listToJson messages)) options (system.map .str)
    (some (.bool stream)))

/-- The chunks of a streamed answer. -/
def chunks (responses : Flow Effect Response) : Flow ModelEffect ModelChunk :=
  (responses.mapEffects ModelEffect.source).through ModelChunk.stage

end ChatModel

end ChatRelay
