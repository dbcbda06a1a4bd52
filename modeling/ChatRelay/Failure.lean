import ChatRelay.Json.Printer
import ChatRelay.Validation

/-!
# Failures

Everything that can go wrong, by cause. A failure that the relay itself detects has a report: the
name of its class, a code, a message and, mostly, a context with the particulars. A failure from
outside has a name and a message only.

The context of a failure of the stream contract always holds what the contract was about: the
payload, or the index of the block.
-/

namespace ChatRelay

/-- The way in which a stream of events broke its contract. -/
inductive Violation where
  | malformedPayload (data : Text)
  | unknownShape (data : Text) (issues : List Issue)
  | toolAlreadyOpen (openId : Text) (index : Number) (id : Text)
  | fragmentOutsideTool (index : Number)
  | fragmentOfOtherBlock (index openIndex : Number)
  | stopOfOtherBlock (index openIndex : Number)
  | insideTool (event : Text) (index : Option Number)
  | beforeStart (event : Text)
  | blockAlreadyOpen (index : Number)
  | textOfClosedBlock (index : Number)
  | stopOfClosedBlock (index : Number)
  deriving DecidableEq

/-- Content that the relay does not handle. -/
inductive Unsupported where
  | block (type : Text) (index : Number)
  | delta (type : Text) (index : Number)
  | part (type : Text)
  | image (urlStart : Text)
  | message (type : Text)
  deriving DecidableEq

/-- Why an operation failed. -/
inductive Failure where
  | violation (v : Violation)
  | unsupported (u : Unsupported)
  | vendor (type message : Text)
  | status (code : Nat) (body endpoint : Text)
  | severalSystemMessages
  | toolCallWithoutId (name : Text)
  | missingInput
  | streamFlag (required : Bool)
  | responseShape (issues : List Issue)
  | noBody
  | noAccessToken
  | noPlainText
  | headerValue (header : Text)
  | invalid (issues : List Issue)
  | foreign (name message : Text)
  deriving DecidableEq

/-- The description of a failure that the relay detects. -/
structure Report where
  name : Text
  code : Text
  message : Text
  context : Option Json
  deriving DecidableEq

namespace Report

/-- A failure of the adapter as such. -/
def adapter (code message : Text) (context : Option Json) : Report :=
  ⟨"AdapterError", code, message, context⟩

/-- A broken stream contract. -/
def violation (message : Text) (context : Option Json) : Report :=
  ⟨"StreamProtocolError", "STREAM_PROTOCOL_VIOLATION", message, context⟩

/-- Content that is not handled. -/
def unsupported (message : Text) (context : Option Json) : Report :=
  ⟨"UnsupportedContentError", "UNSUPPORTED_CONTENT", message, context⟩

/-- A failure that the endpoint reported inside the stream. -/
def vendor (type : Option Json) (message : Text) : Report :=
  ⟨"StreamErrorEvent", "STREAM_ERROR_EVENT", message, some (.object [("errorType", type)])⟩

/-- An answer of the endpoint with a status that is no success. -/
def status (code body : Text) (endpoint : Option Json) : Report :=
  ⟨"VertexApiError", "VERTEX_API_ERROR",
    "Response exception, Status: [" ++ code ++ "], Body: [" ++ body ++ "]",
    some (.object [("endpoint", endpoint)])⟩

/-- The report as JSON. -/
def toJson (r : Report) : Json :=
  .object [("name", some (.str r.name)), ("code", some (.str r.code)),
    ("message", some (.str r.message)), ("context", r.context)]

/-- The report in one line: the name, and the message if there is one. -/
def headline (r : Report) : Text :=
  if r.message.isEmpty then r.name else r.name ++ ": " ++ r.message

end Report

/-- What stands in for the wording of a JSON error. -/
def jsonErrorText : Text := "<json error>"

/-- A context that names the index of a block. -/
def indexContext (index : Number) : Option Json := some (.object [("index", some (.num index))])

/-- The report of a broken stream contract. -/
def Violation.report : Violation → Report
  | .malformedPayload data =>
    .violation "Stream payload is not valid JSON"
      (some (.object [("data", some (.str data)), ("error", some (.str jsonErrorText))]))
  | .unknownShape data issues =>
    .violation "Stream payload does not match any event shape"
      (some (.object [("data", some (.str data)), ("issues", some (issuesToJson issues))]))
  | .toolAlreadyOpen openId index id =>
    .violation "tool_use block started while another is still open"
      (some (.object [("openId", some (.str openId)), ("index", some (.num index)),
        ("id", some (.str id))]))
  | .fragmentOutsideTool index =>
    .violation "input_json_delta received with no open tool_use block" (indexContext index)
  | .fragmentOfOtherBlock index openIndex =>
    .violation "input_json_delta does not belong to the open tool_use block"
      (some (.object [("index", some (.num index)), ("openIndex", some (.num openIndex))]))
  | .stopOfOtherBlock index openIndex =>
    .violation "content_block_stop does not belong to the open tool_use block"
      (some (.object [("index", some (.num index)), ("openIndex", some (.num openIndex))]))
  | .insideTool event index =>
    .violation (event ++ " received inside an open tool_use block")
      (some (.object [("index", index.map .num)]))
  | .beforeStart event => .violation (event ++ " received before message_start") none
  | .blockAlreadyOpen index =>
    .violation "content_block_start for a block that is already open" (indexContext index)
  | .textOfClosedBlock index =>
    .violation "text_delta received for a block that is not open" (indexContext index)
  | .stopOfClosedBlock index =>
    .violation "content_block_stop received for a block that is not open" (indexContext index)

/-- The report of content that is not handled. -/
def Unsupported.report : Unsupported → Report
  | .block type index => .unsupported ("Unsupported content block type: " ++ type) (indexContext index)
  | .delta type index =>
    .unsupported ("Unsupported content block delta type: " ++ type) (indexContext index)
  | .part type => .unsupported ("Unsupported message content type: " ++ type) none
  | .image urlStart =>
    .unsupported "Image input must be a base64 data URL"
      (some (.object [("url", some (.str urlStart))]))
  | .message type => .unsupported ("Unsupported message type: " ++ type) none

namespace Failure

/-- The report of a failure that the relay detects; failed checks and failures from outside have
none. -/
def report? : Failure → Option Report
  | .violation v => some v.report
  | .unsupported u => some u.report
  | .vendor type message => some (.vendor (some (.str type)) message)
  | .status code body endpoint => some (.status (Text.ofNat code) body (some (.str endpoint)))
  | .severalSystemMessages =>
    some (.adapter "INVALID_PROMPT" "Only one system message is allowed in the prompt" none)
  | .toolCallWithoutId name =>
    some (.adapter "INVALID_PROMPT" ("Tool call " ++ name ++ " has no id") none)
  | .missingInput => some (.adapter "INVALID_REQUEST" "Either input or toolResults is required" none)
  | .streamFlag required =>
    some (.adapter "INVALID_REQUEST" ("Request must set the stream property to " ++
      (if required then "true." else "false.")) none)
  | .responseShape issues =>
    some (.adapter "INVALID_RESPONSE" "Unexpected chat completion response shape"
      (some (.object [("issues", some (issuesToJson issues))])))
  | .noBody => some (.adapter "EMPTY_STREAM" "streamRawPredict did not return a readable stream" none)
  | .noAccessToken =>
    some (.adapter "ACCESS_TOKEN_UNAVAILABLE" "Google credentials returned no access token" none)
  | .noPlainText => none
  | .headerValue _ => none
  | .invalid _ => none
  | .foreign _ _ => none

/-- The name of the failures of values that are not of the kind that is needed. -/
def kindFailureName : Text := "TypeError"

/-- The name of the class of a failure. -/
def name (f : Failure) : Text :=
  match f with
  | .noPlainText => kindFailureName
  | .headerValue _ => kindFailureName
  | .invalid _ => "ZodError"
  | .foreign name _ => name
  | f => (f.report?.map Report.name).getD []

/-- The message of a failure. -/
def message (f : Failure) : Text :=
  match f with
  | .noPlainText => "Cannot convert object to primitive value"
  | .headerValue header => "Invalid character in header content [" ++ Json.quote header ++ "]"
  | .invalid issues => (issuesToJson issues).render
  | .foreign _ message => message
  | f => (f.report?.map Report.message).getD []

/-- The code of a failure that the relay detects. -/
def code? (f : Failure) : Option Text := f.report?.map Report.code

/-- The code of a failure outside of the relay. -/
def foreignCode? : Failure → Option Text
  | .headerValue _ => some "ERR_INVALID_CHAR"
  | _ => none

/-- A failure as log lines show it. -/
def toJson (f : Failure) : Json :=
  match f.report? with
  | some r => r.toJson
  | none => .object [("name", some (.str f.name)), ("message", some (.str f.message)),
      ("code", f.foreignCode?.map .str)]

/-- An error raised by something outside of the relay. -/
def error (message : Text) : Failure := .foreign "Error" message

/-- What reading something raises that is not there. -/
def kindFailure (message : Text) : Failure := .foreign kindFailureName message

/-- What reading or calling raises once the signal to stop has fired. -/
def aborted : Failure := error "This operation was aborted"

/-- A body that should be JSON and is not. -/
def bodyNotJson : Failure := .foreign "SyntaxError" jsonErrorText

end Failure

end ChatRelay
