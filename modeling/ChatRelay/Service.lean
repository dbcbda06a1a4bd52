import ChatRelay.Config
import ChatRelay.ToolSet
import ChatRelay.Turn.Run

/-!
# The chat service

The service runs turns one after another and remembers their threads. A turn that names no thread
gets a new one, with an id that was not given out before; `ids` says what the ids look like. The id
is given out when the turn begins, whether or not the turn succeeds.

A `Runtime` does this over any transport; a `Service` is a runtime over an endpoint.
-/

namespace ChatRelay

/-- What the service remembers: the threads, and how many thread ids it has given out. -/
structure Memory where
  threads : Threads
  issued : Nat
  deriving DecidableEq

/-- How turns are run, and the ids of new threads in the order in which they are given out. -/
structure Runtime where
  relay : Relay
  ids : Nat → Text

/-- The service: a runtime and the endpoint that its turns are sent to. -/
structure Service extends Runtime where
  endpoint : Endpoint

namespace Memory

/-- The memory of a service that has just been opened. -/
def fresh : Memory := ⟨.empty, 0⟩

/-- The memory after the effects of a turn. -/
def after (m : Memory) (effects : List TurnEffect) : Memory :=
  { m with threads := TurnEffect.stored effects m.threads }

/-- The memory of a service that was closed: all threads are forgotten. -/
def close (m : Memory) : Memory := { m with threads := .empty }

end Memory

/-- The endpoint of a configuration; without a token of its own it asks the credentials of the
machine. -/
def Config.endpoint (c : Config) (credentials : Except Failure (Option Text)) : Endpoint where
  project := c.project
  location := c.location
  base := c.base.bind nonEmpty?
  tokens :=
    match c.accessToken.bind nonEmpty? with
    | some token => .fixed token
    | none => .credentials credentials

/-- The options of all requests under a configuration with the given tools. -/
def Config.defaults (c : Config) (tools : List Tool) : Options :=
  { c.options with tools := if tools.isEmpty then c.options.tools else some tools }.resolve

namespace Runtime

/-- A new thread id. -/
def issue (rt : Runtime) (m : Memory) : Text × Memory :=
  (rt.ids m.issued, { m with issued := m.issued + 1 })

/-- The thread of a turn: the one that the request names, or a new one. -/
def threadFor (rt : Runtime) (m : Memory) (input : ChatRequest) : Text × Memory :=
  match input.thread? with
  | some id => (id, m)
  | none => rt.issue m

/-- Runs a turn that is streamed to a client, who may stop after a number of events. -/
def run (rt : Runtime) (transport : Transport) (m : Memory) (input : ChatRequest) (signal : Signal)
    (limit : Option Nat) : Flow TurnEffect ChatEvent × Memory :=
  let (id, m) := rt.threadFor m input
  let flow := (Turn.run rt.relay transport m.threads id input signal).takeUpTo limit
  (flow, m.after flow.effects)

/-- Runs a turn that is answered as a whole; the first result is its thread. -/
def complete (rt : Runtime) (transport : Transport) (m : Memory) (input : ChatRequest)
    (signal : Signal) : Text × Flow TurnEffect Response × Memory :=
  let (id, m) := rt.threadFor m input
  let flow := Turn.complete rt.relay transport m.threads id input signal
  (id, flow, m.after flow.effects)

end Runtime

namespace Service

/-- Opens the service of a configuration: reads the tools file and logs what it found. -/
def openWith (c : Config) (toolsFile : Option Text) (credentials : Except Failure (Option Text))
    (ids : Nat → Text) : Except Failure (Service × List Log.Entry) :=
  (ToolSet.load c.toolsPath toolsFile ⟨c.toolsEnabled, c.toolsDisabled⟩).map fun chosen =>
    let defaults := c.defaults chosen.tools
    (⟨⟨⟨defaults, c.debugging⟩, ids⟩, c.endpoint credentials⟩,
      chosen.log ++
        [.info "Chat runtime initialized"
          [("projectId", some (.str c.project)), ("location", some (.str c.location)),
            ("model", defaults.model.json?), ("tools", some (ToolSet.names chosen.chosen)),
            ("sessionMemory", some (.str "in-memory"))]])

/-- Runs a turn that is streamed to a client, who may stop after a number of events. -/
def run (s : Service) (m : Memory) (input : ChatRequest) (answer : Answer) (signal : Signal)
    (limit : Option Nat) : Flow TurnEffect ChatEvent × Memory :=
  s.toRuntime.run (s.endpoint.transport answer) m input signal limit

/-- Runs a turn that is answered as a whole; the first result is its thread. -/
def complete (s : Service) (m : Memory) (input : ChatRequest) (answer : Answer) (signal : Signal) :
    Text × Flow TurnEffect Response × Memory :=
  s.toRuntime.complete (s.endpoint.transport answer) m input signal

end Service

end ChatRelay
