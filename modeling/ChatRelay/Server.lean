import ChatRelay.Server.Request
import ChatRelay.Service

/-!
# The service over HTTP

Three routes: the health of the service, a turn answered as a whole, and a turn streamed as
server-sent events. `route` decides what a request asks for before anything is run: who may ask,
and whether the body is a request of a client. The replies to a turn are made from its flow
(`completed`, `streamed`), whatever runs it; `handle` runs it by the service.
-/

namespace ChatRelay.Server

/-- What the routes know of the configuration. -/
structure Settings where
  debugging : Bool
  model : Json
  location : Text
  authToken : Option Text

/-- A reply: a JSON body, maybe with the id of a thread, or only the head of such a reply; a stream of
events; a text without a media type; a bare refusal of a request that reached no route; or none at
all, ever. -/
inductive HttpReply where
  | json (status : Nat) (threadId : Option Text) (body : Json)
  | head (status : Nat)
  | events (threadId : Text) (text : Text)
  | untyped (status : Nat) (text : Text)
  | refused (refusal : Refusal)
  | unanswered
  deriving DecidableEq

/-- What a request asks for. -/
inductive Route where
  | health
  | healthHead
  | complete (input : ChatRequest)
  | stream (input : ChatRequest)
  | answered (reply : HttpReply)

/-- The settings of a configuration. -/
def Settings.of (c : Config) : Settings where
  debugging := c.debugging
  model := c.options.model.getD (.str builtInModel)
  location := c.location
  authToken := c.authToken.bind nonEmpty?

/-! ## Before a turn -/

/-- Whether a header presents a token: the scheme, a space and the token. Only the word behind the
first space is looked at. -/
def presents (token header : Text) : Bool :=
  match Text.splitOn (Text.unit ' ') header with
  | scheme :: value :: _ => scheme = "Bearer" ∧ value = token
  | _ => false

/-- Whether a request may pass. -/
def isAuthorized (settings : Settings) (r : HttpRequest) : Bool :=
  match settings.authToken with
  | none => true
  | some token => ((r.header? "authorization").map (presents token)).getD false

/-- The reply to a request that may not pass. -/
def unauthorized : HttpReply :=
  .json 401 none (.object [("error", some (.str "Unauthorized"))])

/-- The reply to a body that is no request of a client. -/
def invalidBody (issues : List Issue) : HttpReply :=
  .json 400 none (.object [("error", some (.str "Invalid request body")),
    ("issues", some (issuesToJson issues))])

/-- The route of a turn. -/
def turnRoute (settings : Settings) (r : HttpRequest) (accepted : ChatRequest → Route) : Route :=
  match intake r with
  | .error refusal => .answered (.refused refusal)
  | .ok body =>
    if !isAuthorized settings r then .answered unauthorized
    else
      match ChatRequest.read body with
      | .ok input => accepted input
      | .error issues => .answered (invalidBody issues)

/-- Why a target that names no place is refused: where there are routes, because it is malformed. -/
def refusalOfTarget (method : Text) : Refusal :=
  if (["GET", "HEAD", "POST"] : List Text).contains method then .badTarget else .unknownRoute

/-- The route of a request. -/
def route (settings : Settings) (r : HttpRequest) : Route :=
  match (Url.path? r.target).bind Url.place? with
  | none => .answered (.refused (refusalOfTarget r.method))
  | some place =>
    if r.method = "GET" ∧ place = "/healthz" then .health
    else if r.method = "HEAD" ∧ place = "/healthz" then .healthHead
    else if r.method = "POST" ∧ place = "/api/chat" then turnRoute settings r .complete
    else if r.method = "POST" ∧ place = "/api/chat/stream" then turnRoute settings r .stream
    else .answered (.refused (refusalOfUnknown r))

/-! ## Replies -/

/-- The health of the service at a time. -/
def health (settings : Settings) (timestamp : Text) : HttpReply :=
  .json 200 none (.object [("ok", some (.bool true)), ("model", some settings.model),
    ("location", some (.str settings.location)), ("timestamp", some (.str timestamp))])

/-- The status of a failed turn: the one of the endpoint if that blames the request, else that of a
bad gateway. -/
def failureStatus : Failure → Nat
  | .status code _ _ => if code < 500 then code else 502
  | _ => 502

/-- The header that names the thread of a turn. -/
def threadHeader : Text := "x-thread-id"

/-- Whether a unit may stand in a header. -/
def isHeaderUnit (u : CodeUnit) : Bool := u == 9 || (32 ≤ u && u ≤ 126) || (128 ≤ u && u ≤ 255)

/-- The reply where the thread cannot be named in the head. -/
def unnamable : HttpReply :=
  let f : Failure := .headerValue threadHeader
  .untyped 502 (Json.object [("statusCode", some (Json.ofNat 502)), ("code", f.foreignCode?.map .str),
    ("error", some (.str "Bad Gateway")), ("message", some (.str f.message))]).render

/-- The reply to a failed turn. A reply with the status 304 has no body. -/
def failureReply (f : Failure) : HttpReply :=
  let status := failureStatus f
  if status = 304 then .untyped status []
  else
    .json status none
      (.object [("error", some (.str f.message)), ("code", some (.str (f.code?.getD "CHAT_FAILED")))])

/-- The log entry about a failed turn. -/
def failureEntry (f : Failure) : TurnEffect := .log (.failure "Chat request failed" f)

/-- The reply to a turn that is answered as a whole, and everything that happened. -/
def completed (threadId : Text) (flow : Flow TurnEffect Response) : HttpReply × List TurnEffect :=
  match flow.failure with
  | some f => (failureReply f, flow.effects ++ [failureEntry f])
  | none =>
    if threadId.all isHeaderUnit then
      (.json 200 (some threadId) ((flow.items.head?.map Response.toJson).getD .null), flow.effects)
    else (unnamable, flow.effects ++ [failureEntry (.headerValue threadHeader)])

/-- Writes the frames of a stream; those for debugging are left out unless debugging is on. A frame
whose type has no text fails the stream. -/
def writeFrames (settings : Settings) : Stage TurnEffect Unit Frame Text where
  start := ()
  react _ f :=
    if f.isDebug && !settings.debugging then .next () []
    else
      match f.text? with
      | some t => .next () [.yield t]
      | none => .stop [] (some .noPlainText)
  finish _ := .done

/-- The text that ends a stream whose turn raised a failure. -/
def failureText (f : Failure) : Text :=
  [(ChatEvent.error f.message (some "SSE_ROUTE_FAILED")).toFrame,
    (ChatEvent.done .error none).toFrame].flatMap fun frame => frame.text?.getD []

/-- The reply to a turn that is streamed, and everything that happened. -/
def streamed (settings : Settings) (threadId : Text) (flow : Flow TurnEffect Frame) :
    HttpReply × List TurnEffect :=
  let written := flow.through (writeFrames settings)
  (.events threadId (written.items.flatten ++ (written.failure.map failureText).getD []),
    written.effects ++
      (written.failure.map fun f => TurnEffect.log (.failure "SSE request failed" f)).toList)

/-! ## Running turns -/

/-- A turn with its events as they travel. -/
def travelling (flow : Flow TurnEffect ChatEvent) : Flow TurnEffect Frame :=
  flow.expand fun e => [.yield e.toFrame]

/-- Answers a request. The stream route fixes the thread before the turn runs, so that the head of
the reply can name it. A head that cannot is not written, and then no turn is run and the request stays
without an answer. -/
def handle (settings : Settings) (service : Service) (memory : Memory) (timestamp : Text)
    (r : HttpRequest) (answer : Answer) (signal : Signal) :
    HttpReply × List TurnEffect × Memory :=
  match route settings r with
  | .health => (health settings timestamp, [], memory)
  | .healthHead => (.head 200, [], memory)
  | .answered reply => (reply, [], memory)
  | .complete input =>
    let (id, flow, memory) := service.complete memory input answer signal
    let (reply, effects) := completed id flow
    (reply, effects, memory)
  | .stream input =>
    let (id, memory) := service.threadFor memory input
    if id.all isHeaderUnit then
      let (flow, memory) := service.run memory { input with threadId := some id } answer signal none
      let (reply, effects) := streamed settings id (travelling flow)
      (reply, effects, memory)
    else (.unanswered, [], memory)

end ChatRelay.Server
