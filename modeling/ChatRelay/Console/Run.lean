import ChatRelay.Console.Session

/-!
# One run of the command line

A run opens the service and then either sends one prompt, from the arguments or else from the
standard input, or enters the interactive mode. Without a prompt it explains its usage and fails. A
failure to open the service ends the run.
-/

namespace ChatRelay.Console

/-- What the network does with the calls of a session, in their order. -/
abbrev Network := Nat → Answer

/-- What a run finds: arguments, environment, the directory it runs in, the piped input (none at a
terminal), the tools file, the credentials of the machine, and the ids of new threads. -/
structure Surroundings where
  arguments : List Text
  environment : Environment
  root : Text
  piped : Option Text
  toolsFile : Text → Option Text
  credentials : Except Failure (Option Text)
  ids : Nat → Text
  network : Network

/-- A run that has been opened: its arguments, what does not change, and the first session. -/
structure Opened where
  arguments : Arguments
  setup : Setup
  session : Session

/-- What a run comes to. -/
structure Outcome where
  exitCode : Nat
  output : List Output
  calls : List Call

/-- How the program is used. -/
def usage : List Output :=
  [errorLine "Usage: npm run dev:cli -- [--model <id>] [--system <text>] \"your prompt\"",
    errorLine "       npm run dev:cli -- --interactive"]

/-- The thread that the environment names. -/
def environmentThread (env : Environment) : Option Text :=
  (env.lookup (Text.ofString "THREAD_ID")).bind Text.trimmed?

/-- Opens a run under a configuration: what is written, and what follows goes on from. -/
def openUnder (s : Surroundings) (c : Config) : Except Failure (List Output × Opened) :=
  let arguments := Arguments.read s.arguments
  (Service.openWith c (s.toolsFile c.toolsPath) s.credentials s.ids).map fun (service, log) =>
    (logged c.debugging log,
      { arguments := arguments
        setup :=
          { runtime := service.toRuntime
            transport := fun _ called => service.endpoint.transport (s.network called)
            system := arguments.system }
        session := ⟨environmentThread s.environment, arguments.model, .fresh, 0, 0⟩ })

/-- The prompt of a run that is not interactive. -/
def prompt? (s : Surroundings) (a : Arguments) : Option Text :=
  nonEmpty? a.prompt <|> s.piped.bind Text.trimmed?

/-- Sends the one prompt of a run that is not interactive. -/
def once (s : Surroundings) (o : Opened) : Outcome :=
  match prompt? s o.arguments with
  | none => ⟨1, usage, []⟩
  | some prompt =>
    let (output, calls, _) := send o.setup o.session "cli" prompt
    ⟨0, output, calls⟩

/-- The interactive mode over the lines that are typed. -/
def interact (o : Opened) (lines : List Text) : Outcome :=
  let (greeting, session) := greet o.setup.runtime o.session
  let (output, calls) := handleLines o.setup session lines
  ⟨0, greeting ++ output, calls⟩

/-- A run under a configuration. -/
def runUnder (s : Surroundings) (c : Config) (lines : List Text) : Except Failure Outcome :=
  (openUnder s c).map fun (opening, o) =>
    let outcome := if o.arguments.interactive then interact o lines else once s o
    { outcome with output := opening ++ outcome.output }

/-- A whole run; `lines` are the lines that are typed if it is interactive. -/
def run (s : Surroundings) (lines : List Text) : Except Failure Outcome :=
  (Config.read s.root s.environment).bind fun c => runUnder s c lines

end ChatRelay.Console
