import ChatRelay.Event.Format
import ChatRelay.Reply
import ChatRelay.Stream.Held
import ChatRelay.Stream.Sse
import ChatRelay.Stream.Window

/-!
# From payloads to responses

The payloads of a streaming answer become responses in four stages, each of which handles one item
at a time: payloads up to `[DONE]`, events without the control events, windows, and one response
per window, of which those without a type are not shown. A stream that ends early gives no final
response.
-/

namespace ChatRelay

/-- The events of a stream of payloads. Control events are left out, unknown ones with a note. -/
def decodeEvents : Stage Effect Unit Text Event where
  start := ()
  react _ payload :=
    match Event.parse payload with
    | .error v => .stop [] (some (.violation v))
    | .ok (.unknown type) =>
      .next () (Act.logs [.debug "Skipping unrecognized stream event" [("eventType", some (.str type))]])
    | .ok .ping => .next () []
    | .ok e => .next () [.yield e]
  finish _ := .done

/-- The responses to a stream of windows. -/
def respondToWindows : Stage Effect Draft (List Event) Response where
  start := .blank
  react draft window :=
    let (entries, merged) := Merged.ofWindow window
    match merged with
    | .error f => .stop (Act.logs entries) (some f)
    | .ok merged =>
      match draft.apply merged with
      | .error f => .stop (Act.logs entries) (some f)
      | .ok (draft, response) =>
        .next draft (Act.logs entries ++ if response.type.value?.isSome then [.yield response] else [])
  finish _ := .done

/-- The responses that a stream of payloads amounts to. -/
def reduceStream (payloads : Flow Effect Text) : Flow Effect Response :=
  payloads.through Sse.untilDone |>.through decodeEvents |>.through toolSplitter.windows
    |>.through respondToWindows

/-- The responses that a stream of server-sent events amounts to. -/
def reduceChunks (chunks : Flow Effect Sse.Chunk) : Flow Effect Response :=
  reduceStream (chunks.through Sse.payloads)

/-- The responses that a stream of server-sent events amounts to which may be left early. -/
def reduceHeld (chunks : Flow Effect (Held Sse.Chunk)) : Flow Effect (Held Response) :=
  chunks.through Sse.payloads.held |>.through Sse.untilDone.held |>.through decodeEvents.held
    |>.through toolSplitter.windows.held |>.through respondToWindows.held

end ChatRelay
