import Std.Time.DateTime.Timestamp
import Treasury.Command.Run
import Treasury.Command.Usage
import Treasury.Settings.Basic
import Treasury.Store.Document

/-!
# The program

`treasury` reads its arguments, its settings and the store, carries out one command, and
writes the store back. It has no line to servers: to ask one ends without an answer, and the
command goes on as it does then. What is printed goes to standard output, the log and what
went wrong to standard error. The program ends with 0, with 1 if the command failed, and
with 2 if the command line was not understood.
-/

namespace Treasury

namespace Program

/-- The surroundings in which a command is carried out. -/
def desk (settings : Settings) : Desk where
  tokens := settings.tokens
  chains := settings.chains
  gas := .sequential
  liquidity := Snapshot.ofExchange .unreachable
  notifier := if settings.alerts.isSome then .webhook .unreachable else .log
  recipients := (settings.alerts.map (·.recipients)).getD []

/-- The text of a file, if it can be read. -/
def readText? (path : String) : IO (Option String) := do
  try
    return some (← IO.FS.readFile path)
  catch _ =>
    return none

/-- The store as the last command has left it. -/
def loadStore (file : Option String) : IO (Option Store) := do
  match file with
  | none => return some Store.empty
  | some path =>
    match ← readText? path with
    | none => return some Store.empty
    | some text => return Store.ofText? text

/-- Keeps the store for the next command. -/
def saveStore (file : Option String) (s : Store) : IO Unit :=
  match file with
  | none => pure ()
  | some path => IO.FS.writeFile path s.toText

/-- A turn that starts now, with a token of its own. -/
def newTurn : IO Turn := do
  let now ← Std.Time.Timestamp.now
  let token ← IO.rand 0 0xFFFFFFFFFFFFFFFFFFFFFFFFFFFFFFFF
  return ⟨now.toSecondsSinceUnixEpoch.val, toString token⟩

/-- Says what went wrong. -/
def fail (sentence : String) : IO UInt32 := do
  IO.eprintln ("Error: " ++ sentence)
  return 1

/-- Shows the lines of the log that matter enough. -/
def showLog (level : LogLevel) (events : List Event) : IO Unit :=
  for event in events do
    if let .logged line := event then
      if line.isShown level then IO.eprintln line.toText

/-- Carries out a command under its settings. -/
def perform (settings : Settings) (command : Command) : IO UInt32 := do
  let file := Store.fileOf? settings.databaseUrl
  match ← loadStore file with
  | none => fail "failed to read the store"
  | some store =>
    let result := Command.run (desk settings) (← newTurn) (← newTurn) store command
    saveStore file result.store
    IO.print result.output
    showLog settings.logLevel result.events
    match result.outcome with
    | .ok () => return 0
    | .error e => fail e.message

/-- Carries out what the arguments ask for. The settings are in the file that the environment
names, unless an argument names another. -/
def run (args : List String) : IO UInt32 := do
  let config := (← IO.getEnv "TREASURY_CONFIG").getD "treasury.toml"
  match CommandLine.ofArguments args config with
  | .error e =>
    if e.isRequest then IO.print e.message else IO.eprint e.message
    return if e.isRequest then 0 else 2
  | .ok line =>
    match Settings.ofFile (← readText? line.config) with
    | .error e => fail e.message
    | .ok settings => perform settings line.command

end Program

end Treasury

/-- The program `treasury`. -/
def main (args : List String) : IO UInt32 := Treasury.Program.run args
