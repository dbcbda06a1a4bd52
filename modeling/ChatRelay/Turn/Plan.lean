import ChatRelay.ChatRequest
import ChatRelay.Turn.Basic

/-!
# Planning a turn

A turn is planned on what its thread holds when it begins: the messages to be sent are that history
and the message of the user. When the model has answered, `Plan.commit` stores these messages and
the answer; an answer without content is not stored at all.
-/

namespace ChatRelay.Turn

/-- What a turn is going to send, and for which thread. -/
structure Plan where
  threadId : Text
  messages : List Message
  model : Text
  request : Request

/-- The options that a request of a client sets. -/
def clientOptions (input : ChatRequest) : Options :=
  { model := .ofOption ((input.model.bind nonEmpty?).map .str) }

/-- The plan of a turn. -/
def plan (defaults : Options) (threads : Threads) (threadId : Text) (input : ChatRequest)
    (stream : Bool) : Except Failure Plan := do
  let message ← input.userMessage
  let messages := threads.messages threadId ++ [message]
  let options := (clientOptions input).above defaults
  return {
    threadId := threadId
    messages := messages
    model := options.modelName
    request := Request.build (some (Message.listToJson messages)) options (input.system.map .str)
      (some (.bool stream)) }

/-- What happens when the model has answered. -/
def Plan.commit (p : Plan) (r : Response) : List TurnEffect :=
  .completed r ::
    if r.content.isEmpty then
      [.log (.debug "Empty assistant turn not stored" [("threadId", some (.str p.threadId))])]
    else [.store p.threadId (p.messages ++ [r.toMessage])]

end ChatRelay.Turn
