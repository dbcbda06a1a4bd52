import ChatRelay.Reply.Format
import ChatRelay.Stream.Reduction

/-!
# The model endpoint

Requests go to the address of a model, with a token that says who asks. The answer is a status and
a body; a status outside of 200 to 299 is a failure that quotes the body. A request is answered
either as a whole (`complete`) or by a stream of responses (`stream`), and it says itself which of
the two it expects. Requests are sent as they are given: only what the log tells is read from them.

What the network does with a call is an `Answer`. Reading a body causes the effects of the flow
that it is, and a stream of responses that is left early leaves its body.
-/

namespace ChatRelay

/-- A body as it arrives from the network. Each of its chunks tells what leaving the body behind it
raises. -/
abbrev ByteFlow := Flow Effect (Held (List UInt8))

/-- What the network does with a call. -/
inductive Answer where
  | failed (f : Failure)
  | responded (status : Nat) (body : Option ByteFlow)

/-- Where the token of a call comes from: a fixed one, or whatever the credentials of the machine
give at that time. -/
inductive TokenSource where
  | fixed (token : Text)
  | credentials (outcome : Except Failure (Option Text))

/-- The token of a call. Credentials that give an empty one give none. -/
def TokenSource.token : TokenSource → Except Failure Text
  | .fixed token => .ok token
  | .credentials (.error f) => .error f
  | .credentials (.ok token) =>
    match token.bind nonEmpty? with
    | some token => .ok token
    | none => .error .noAccessToken

/-- An endpoint: whose models are used, where they run, under which address if not the usual one,
and how calls are signed. -/
structure Endpoint where
  project : Text
  location : Text
  base : Option Text
  tokens : TokenSource

/-- Whether an answer is expected as a whole or as a stream. -/
inductive Delivery where
  | whole
  | streamed
  deriving DecidableEq

/-- The name of the method at the endpoint. -/
def Delivery.method : Delivery → Text
  | .whole => "rawPredict"
  | .streamed => "streamRawPredict"

/-- The text without the slashes at its end. -/
def withoutTrailingSlashes (t : Text) : Text :=
  (t.reverse.dropWhile (· = Text.unit '/')).reverse

namespace Endpoint

/-- The address under which all others lie. -/
def root (e : Endpoint) : Text :=
  withoutTrailingSlashes (e.base.getD ("https://" ++ e.location ++ "-aiplatform.googleapis.com"))

/-- The address of a model. -/
def url (e : Endpoint) (model : Text) (d : Delivery) : Text :=
  e.root ++ "/v1/projects/" ++ e.project ++ "/locations/" ++ e.location ++
    "/publishers/anthropic/models/" ++ model ++ ":" ++ d.method

/-- Whether a request expects a stream. -/
def expectsStream (request : Json) : Bool := ((request.get? "stream").map Json.isSaid).getD false

/-- How many messages a request says it has. A request without messages has no number of them. -/
def messageCount (request : Json) : Except Failure (Option Json) :=
  match request.get? "messages" with
  | none => .error (.kindFailure "Cannot read properties of undefined (reading 'length')")
  | some .null => .error (.kindFailure "Cannot read properties of null (reading 'length')")
  | some messages => .ok messages.length?

/-- The names of tools; a tool without a name is listed as `null`. -/
def toolNames : List Json → Except Failure (List Json)
  | [] => .ok []
  | .null :: _ => .error (.kindFailure "Cannot read properties of null (reading 'name')")
  | tool :: tools => (toolNames tools).map (((tool.get? "name").getD .null) :: ·)

/-- The names of the tools of a request. -/
def requestTools (request : Json) : Except Failure (List Json) :=
  match request.get? "tools" with
  | none => .ok []
  | some .null => .ok []
  | some (.arr tools) => toolNames tools
  | some _ => .error (.kindFailure "request.tools?.map is not a function")

/-- What is logged about a request. -/
def requestEntry (url : Text) (request : Json) : Except Failure Log.Entry := do
  let messages ← messageCount request
  let tools ← requestTools request
  return .debug "Vertex AI request"
    [("endpoint", some (.str url)), ("stream", request.get? "stream"), ("messages", messages),
      ("tools", some (.arr tools))]

/-- The byte order mark. -/
def byteOrderMark : List UInt8 := [0xEF, 0xBB, 0xBF]

/-- The bytes of a body behind a byte order mark. -/
def withoutMark (bytes : List UInt8) : List UInt8 :=
  if bytes.take 3 = byteOrderMark then bytes.drop 3 else bytes

/-- The text of a body; a missing body is empty. A byte order mark is taken off the bytes, and one
more is no part of the text that the rest decodes to. -/
def bodyText (body : Option ByteFlow) : Flow Effect Text :=
  (fun chunks => Utf8.decode (withoutMark chunks.flatten)) <$> (body.getD .done).bare.gather

/-- The text of the body of a failure. A body that cannot be read counts as empty. -/
def errorText (body : Option ByteFlow) : Flow Effect Text :=
  (bodyText body).rescue fun f => do
    .perform (.log (.debug "Unable to read error response body" [("error", some f.toJson)]))
    return []

/-- Whether a status means success. -/
def isSuccess (status : Nat) : Bool := 200 ≤ status && status < 300

/-- Sends a request and gives the body of a successful answer. -/
def post (e : Endpoint) (model : Text) (d : Delivery) (request : Json) (answer : Answer) :
    Flow Effect (Option ByteFlow) := do
  let url := e.url model d
  let token ← .ofExcept e.tokens.token
  let entry ← .ofExcept (requestEntry url request)
  .perform (.log entry)
  .perform (.call ⟨url, expectsStream request, token, request⟩)
  .perform .poll
  match answer with
  | .failed f => .fail f
  | .responded status body =>
    if isSuccess status then return body
    else
      let text ← errorText body
      .fail (.status status text url)

/-- The response that the text of a whole answer holds. -/
def readAnswer (text : Text) : Except Failure Response :=
  match Json.parse? text with
  | none => .error .bodyNotJson
  | some value =>
    match (Response.check [] (some value)).toExcept with
    | .ok response => .ok response
    | .error issues => .error (.responseShape issues)

/-- Sends a request that is answered as a whole. -/
def complete (e : Endpoint) (model : Text) (request : Json) (answer : Answer) :
    Flow Effect Response := do
  if expectsStream request then .fail (.streamFlag false)
  else
    let body ← e.post model .whole request answer
    let text ← bodyText body
    .ofExcept (readAnswer text)

/-- Sends a request that is answered by a stream. -/
def stream (e : Endpoint) (model : Text) (request : Json) (answer : Answer) :
    Flow Effect (Held Response) := do
  if expectsStream request then
    match ← e.post model .streamed request answer with
    | none => .fail .noBody
    | some body => reduceHeld (body.mapItems (Held.map .bytes))
  else .fail (.streamFlag true)

end Endpoint

end ChatRelay
