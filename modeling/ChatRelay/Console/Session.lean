import ChatRelay.Console.Arguments
import ChatRelay.Service

/-!
# A session at the console

A session is one use of the service from a console, with a thread, a model and a system prompt that
its turns share. The texts of the model go to the standard output, everything else goes to the error
output. In the interactive mode a line is a prompt, or a command if it begins with a slash; blank
lines do nothing.

What carries the turns of a session is a function: the transport of a turn, by how many turns there
were before it and how many calls they made.
-/

namespace ChatRelay.Console

/-- What is written, and where. -/
inductive Output where
  | stdout (t : Text)
  | stderr (t : Text)
  deriving DecidableEq

/-- What does not change in a session. -/
structure Setup where
  runtime : Runtime
  transport : (turns called : Nat) → Transport
  system : Option Text

/-- What a session has come to: its thread and model, what the service remembers, how many turns
there were, and how many calls they made. -/
structure Session where
  thread : Option Text
  model : Option Text
  memory : Memory
  turns : Nat
  called : Nat
  deriving DecidableEq

/-- A line of the error output. -/
def errorLine (t : Text) : Output := .stderr (t ++ "\n")

/-- How a count of tokens is written. -/
def countText : Field Number → Text
  | .missing => Json.missingWord
  | .null => "null"
  | .value x => x.render

/-- What an event writes. -/
def written (debugging : Bool) : ChatEvent → List Output
  | .session _ => []
  | .token t => [.stdout t]
  | .toolUse tool =>
    [errorLine ("\n[TOOL_USE] " ++ tool.id ++ " " ++ tool.name ++ " " ++ (Json.obj tool.input).render)]
  | .usage u =>
    if debugging then
      [errorLine ("\n[USAGE] input=" ++ countText u.input ++ " output=" ++ countText u.output)]
    else []
  | .debug message _ => if debugging then [errorLine ("[DEBUG] " ++ message)] else []
  | .error message code =>
    let code : Text := match code.bind nonEmpty? with | some code => code ++ ": " | none => []
    [errorLine ("\n[ERROR] " ++ code ++ message)]
  | .done reason stopReason =>
    match reason, stopReason.bind nonEmpty? with
    | .incomplete, _ => [errorLine "\n[INCOMPLETE] stream ended before the message was complete"]
    | _, some stopReason => if debugging then [errorLine ("\n[STOP] " ++ stopReason)] else []
    | _, none => []

/-- What the entries of a log write. -/
def logged (debugging : Bool) (entries : List Log.Entry) : List Output :=
  (Log.lines debugging entries).map errorLine

/-- What one act of a turn writes. -/
def shown (debugging : Bool) : Act TurnEffect ChatEvent → List Output
  | .yield e => written debugging e
  | .effect (.log entry) => logged debugging [entry]
  | .effect _ => []

/-- The thread that an event announces. -/
def announced? : ChatEvent → Option Text
  | .session id => some id
  | _ => none

/-- The thread that a list of events announces last. -/
def announced (events : List ChatEvent) : Option Text := (events.filterMap announced?).getLast?

/-- The request for a prompt. -/
def request (setup : Setup) (session : Session) (source prompt : Text) : ChatRequest where
  input := some prompt
  threadId := session.thread.bind nonEmpty?
  system := setup.system
  model := session.model.bind nonEmpty?
  metadata := some [("source", .str source)]

/-- Sends a prompt: what is written, the calls that are made, and what the session comes to. -/
def send (setup : Setup) (session : Session) (source prompt : Text) :
    List Output × List Call × Session :=
  let (flow, memory) := setup.runtime.run (setup.transport session.turns session.called)
    session.memory (request setup session source prompt) .never none
  let calls := TurnEffect.calls flow.effects
  (flow.acts.flatMap (shown setup.runtime.relay.debugging) ++ [.stdout "\n"], calls,
    { session with
      thread := announced flow.items <|> session.thread
      memory := memory
      turns := session.turns + 1
      called := session.called + calls.length })

/-! ## The interactive mode -/

/-- A command. -/
inductive Command where
  | leave
  | thread
  | reset
  | model (argument : Text)
  | unknown (word : Text)
  deriving DecidableEq

/-- The command on a line. -/
def Command.read (line : Text) : Command :=
  match Text.splitOnBlanks line with
  | [] => .unknown []
  | word :: rest =>
    if word = "/exit" ∨ word = "/quit" then .leave
    else if word = "/thread" then .thread
    else if word = "/reset" then .reset
    else if word = "/model" then .model (Text.joinWith " " rest)
    else .unknown word

/-- A line that was typed. -/
inductive Line where
  | blank
  | command (c : Command)
  | prompt (t : Text)
  deriving DecidableEq

/-- What a line says; white space around it does not matter. -/
def Line.read (line : Text) : Line :=
  let line := line.trim
  if line.isEmpty then .blank
  else if line.head? = some (Text.unit '/') then .command (.read line)
  else .prompt line

/-- Obeys a command; there is no session afterwards if it says to leave. -/
def obey (runtime : Runtime) (session : Session) : Command → List Output × Option Session
  | .leave => ([], none)
  | .thread => ([errorLine (session.thread.getD "(none yet)")], some session)
  | .reset =>
    let (id, memory) := runtime.issue session.memory
    ([errorLine ("threadId reset: " ++ id)], some { session with thread := some id, memory := memory })
  | .model argument =>
    let model := nonEmpty? argument <|> session.model
    ([errorLine ("model: " ++ model.getD "(default)")], some { session with model := model })
  | .unknown word => ([errorLine ("Unknown command " ++ word)], some session)

/-- Handles a line that was typed. -/
def handleLine (setup : Setup) (session : Session) (line : Text) :
    List Output × List Call × Option Session :=
  match Line.read line with
  | .blank => ([], [], some session)
  | .command c =>
    let (output, session) := obey setup.runtime session c
    (output, [], session)
  | .prompt t =>
    let (output, calls, session) := send setup session "cli-repl" t
    (output, calls, some session)

/-- Handles lines until one says to leave. -/
def handleLines (setup : Setup) : Session → List Text → List Output × List Call
  | _, [] => ([], [])
  | session, line :: lines =>
    match handleLine setup session line with
    | (output, calls, none) => (output, calls)
    | (output, calls, some session) =>
      let (more, moreCalls) := handleLines setup session lines
      (output ++ more, calls ++ moreCalls)

/-- Begins the interactive mode: the session has a thread from then on. -/
def greet (runtime : Runtime) (session : Session) : List Output × Session :=
  let (id, memory) :=
    match session.thread with
    | some id => (id, session.memory)
    | none => runtime.issue session.memory
  ([errorLine ("REPL started. threadId=" ++ id),
    errorLine "Commands: /exit, /quit, /reset, /thread, /model <id>"],
    { session with thread := some id, memory := memory })

end ChatRelay.Console
