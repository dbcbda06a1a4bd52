import ChatRelay.Json.Field
import ChatRelay.Json.Plain

/-!
# Request options

Options come in layers: what a call asks for, what the service is configured with, what is built
in. Merging takes each field from the upper layer where that has a value and from the lower one
where it does not. Tool lists are united by name instead: a tool keeps the place where its name
occurs first, the lower layer's tools coming first, and is defined as it is where its name occurs
last.

Options are passed on to the model as they are given, so their values are arbitrary.
-/

namespace ChatRelay

/-- A tool that the model may call, as it is defined for the model. -/
structure Tool where
  definition : Json
  deriving DecidableEq

/-- A layer of options, each of which may be left open. -/
structure Options where
  model : Field Json := .missing
  version : Field Json := .missing
  maxTokens : Field Json := .missing
  temperature : Field Json := .missing
  topK : Field Json := .missing
  topP : Field Json := .missing
  stopSequences : Option (List Json) := none
  tools : Option (List Tool) := none
  deriving DecidableEq

namespace Tool

/-- The name of a tool, if it has one. -/
def name? (tool : Tool) : Option Json := tool.definition.get? "name"

/-- Whether two tools go by the same name; so do two tools without any. -/
def sameName (a b : Tool) : Bool :=
  match a.name?, b.name? with
  | none, none => true
  | some m, some n => m.sameScalar n
  | _, _ => false

/-- A tool with a name and the schema of its input. -/
def define (name : Text) (inputSchema : Json) (description : Option Text) : Tool :=
  ⟨.object [("name", some (.str name)), ("input_schema", some inputSchema),
    ("description", description.map .str)]⟩

/-- Adds a tool to a list, in the place of the one with its name if there is one. -/
def put (tool : Tool) : List Tool → List Tool
  | [] => [tool]
  | t :: ts => if t.sameName tool then tool :: ts else t :: put tool ts

/-- The tools of a list with one definition, the last, for each name. -/
def distinct (tools : List Tool) : List Tool := tools.foldl (fun ts t => put t ts) []

/-- The union of two tool lists; there is none if both are empty. -/
def unite (upper lower : Option (List Tool)) : Option (List Tool) :=
  match lower.getD [] ++ upper.getD [] with
  | [] => none
  | t :: ts => some (distinct (t :: ts))

end Tool

namespace Options

/-- The options of an upper layer over those of a lower one. -/
def above (upper lower : Options) : Options where
  model := upper.model.above lower.model
  version := upper.version.above lower.version
  maxTokens := upper.maxTokens.above lower.maxTokens
  temperature := upper.temperature.above lower.temperature
  topK := upper.topK.above lower.topK
  topP := upper.topP.above lower.topP
  stopSequences := upper.stopSequences <|> lower.stopSequences
  tools := Tool.unite upper.tools lower.tools

/-- The model as it stands in an address; a model that has no text is not named there. -/
def modelName (o : Options) : Text := (Json.plainOrMissing? o.model.json?).getD []

/-- Options as JSON. -/
def toJson (o : Options) : Json :=
  .object [("model", o.model.json?), ("anthropicVersion", o.version.json?),
    ("maxTokens", o.maxTokens.json?), ("temperature", o.temperature.json?), ("topK", o.topK.json?),
    ("topP", o.topP.json?), ("stopSequences", o.stopSequences.map .arr),
    ("tools", o.tools.map fun ts => .arr (ts.map Tool.definition))]

end Options

/-! ## What is built in -/

/-- The models that have a name of their own. -/
def namedModels : List (String × Text) :=
  [("CLAUDE_3_5_SONNET", "claude-3-5-sonnet@20240620"), ("CLAUDE_3_OPUS", "claude-3-opus@20240229"),
    ("CLAUDE_3_SONNET", "claude-3-sonnet@20240229"), ("CLAUDE_3_HAIKU", "claude-3-haiku@20240307")]

/-- The model that is used where none is named. -/
def builtInModel : Text := "claude-3-5-sonnet@20240620"

/-- The version of the message format. -/
def formatVersion : Text := "vertex-2023-10-16"

/-- The most tokens that an answer may have where nothing else is said. -/
def builtInMaxTokens : Number := .ofNat 500

/-- The temperature where nothing else is said. -/
def builtInTemperature : Number := .ofDecimal false 8 (-1)

/-- How many candidates a token is chosen from where nothing else is said. -/
def builtInTopK : Number := .ofNat 10

/-- The options that hold where nothing else is said. -/
def builtInOptions : Options where
  model := .value (.str builtInModel)
  version := .value (.str formatVersion)
  maxTokens := .value (.num builtInMaxTokens)
  temperature := .value (.num builtInTemperature)
  topK := .value (.num builtInTopK)

/-- A layer of options over the built-in ones. -/
def Options.resolve (o : Options) : Options := o.above builtInOptions

end ChatRelay
