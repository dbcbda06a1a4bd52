import ChatRelay.Console.Run

/-!
# The program

The outer layer: arguments, environment, files and standard streams. It has no connection to a
network, so every call that a turn makes fails, and no credentials of the machine but the token that
the environment may hold.
-/

namespace ChatRelay.Program

open Console

/-- The variables that the service reads. -/
def variableNames : List String :=
  ["VERTEX_AI_ANTHROPIC_PROJECT_ID", "VERTEX_AI_ANTHROPIC_LOCATION", "VERTEX_AI_ANTHROPIC_MODEL",
    "VERTEX_AI_ANTHROPIC_ACCESS_TOKEN", "VERTEX_AI_ANTHROPIC_BASE_URL",
    "VERTEX_AI_ANTHROPIC_MAX_TOKENS", "VERTEX_AI_ANTHROPIC_TEMPERATURE",
    "VERTEX_AI_ANTHROPIC_TOP_K", "VERTEX_AI_ANTHROPIC_TOP_P", "DEBUG", "PORT",
    "TOOLS_CONFIG_PATH", "TOOLS_ENABLED", "TOOLS_DISABLED", "API_AUTH_TOKEN", "THREAD_ID"]

/-- The variables that are set. -/
def environment : IO Environment := do
  let mut found : Environment := []
  for name in variableNames do
    match ← IO.getEnv name with
    | some value => found := found ++ [(Text.ofString name, Text.ofString value)]
    | none => pure ()
  return found

/-- The bytes that are left in a stream. -/
partial def remaining (input : IO.FS.Stream) (read : ByteArray) : IO ByteArray := do
  let chunk ← input.read 65536
  if chunk.isEmpty then return read else remaining input (read ++ chunk)

/-- The text of a file, if there is one. -/
def fileText? (path : Text) : IO (Option Text) := do
  try
    let bytes ← IO.FS.readBinFile path.toString
    return some (Utf8.decode bytes.toList)
  catch _ => return none

/-- Random bytes as the id of a thread. -/
def threadId (bytes : List UInt8) : Text :=
  let marked := bytes.mapIdx fun i b =>
    if i = 6 then b % 16 + 64 else if i = 8 then b % 64 + 128 else b
  let digits := marked.flatMap fun b => [Text.hexDigit (b.toNat / 16), Text.hexDigit (b.toNat % 16)]
  let part (start length : Nat) : Text := (digits.drop start).take length
  Text.joinWith "-" [part 0 8, part 8 4, part 12 4, part 16 4, part 20 12]

/-- The ids of new threads: the first is random, and later ones count on from it. -/
def threadIds : IO (Nat → Text) := do
  let seed := (← IO.getRandomBytes 16).toList
  let start := seed.foldl (fun n b => n * 256 + b.toNat) 0
  return fun i =>
    threadId ((List.range 16).map fun k => ((start + i) / Nat.pow 256 (15 - k)).toUInt8)

/-- Writes to the standard streams. -/
def write (output : List Output) : IO Unit := do
  let out ← IO.getStdout
  let err ← IO.getStderr
  for o in output do
    match o with
    | .stdout t => out.putStr t.toString; out.flush
    | .stderr t => err.putStr t.toString; err.flush

/-- Reads lines and handles them until one says to leave or the input ends. -/
partial def converse (setup : Setup) (session : Session) : IO Unit := do
  write [.stdout "> "]
  let line ← (← IO.getStdin).getLine
  if line.isEmpty then return ()
  let (output, _, next) := handleLine setup session (Text.ofString line)
  write output
  match next with
  | some session => converse setup session
  | none => return ()

/-- Reports a failure that ends the program. -/
def report (f : Failure) : IO UInt32 := do
  write [errorLine (f.name ++ ": " ++ f.message)]
  return 1

/-- Runs the program under a configuration. -/
def runUnder (s : Surroundings) (c : Config) : IO UInt32 := do
  match openUnder s c with
  | .error f => report f
  | .ok (opening, o) =>
    write opening
    if o.arguments.interactive then
      let (greeting, session) := greet o.setup.runtime o.session
      write greeting
      converse o.setup session
      return 0
    else
      let piped ←
        if (nonEmpty? o.arguments.prompt).isSome || (← (← IO.getStdin).isTty) then pure none
        else
          let bytes ← remaining (← IO.getStdin) .empty
          pure (some (Utf8.decode bytes.toList))
      let outcome := once { s with piped := piped } o
      write outcome.output
      return outcome.exitCode.toUInt32

/-- Runs the program. -/
def run (arguments : List String) : IO UInt32 := do
  let env ← environment
  let root := Text.ofString (← IO.currentDir).toString
  match Config.read root env with
  | .error f => report f
  | .ok c =>
    let file ← fileText? c.toolsPath
    let s : Surroundings := {
      arguments := arguments.map Text.ofString
      environment := env
      root := root
      piped := none
      toolsFile := fun _ => file
      credentials := .ok none
      ids := ← threadIds
      network := fun _ => .failed (.foreign "TypeError" "fetch failed") }
    runUnder s c

end ChatRelay.Program

/-- The entry point. -/
def main (arguments : List String) : IO UInt32 := ChatRelay.Program.run arguments
