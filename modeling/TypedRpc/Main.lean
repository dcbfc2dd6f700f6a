import TypedRpc.Command.Arguments
import TypedRpc.Command.Run
import TypedRpc.Sample.Setup

/-!
The command line of the sample service. The files, the environment and the two streams are all that happens here;
what a command does is decided by `Command.run`. There is no network to serve on, so the command that serves ends
after it has written the client.
-/

namespace TypedRpc.Console

open TypedRpc.Server

/-- The sample service as a program. -/
def program : Program :=
  ⟨(Sample.records "sample").slots, Sample.setup "sample" "0.1.0-alpha.1"⟩

/-- The variables that are read. -/
def variableNames : List String :=
  ["TSBRIDGE_ADDR", "TSBRIDGE_WORKERS", "TSBRIDGE_MAX_BODY_BYTES", "TSBRIDGE_MOUNT_PATH", "TSBRIDGE_CLIENT_OUT"]

/-- How the program is called. -/
def usage : String :=
  "Typed JSON handlers with a generated TypeScript client\n\nUsage:\n"
    ++ "  generate --out <OUT> [--mount-path <MOUNT_PATH>]\n"
    ++ "  serve [--config <CONFIG>] [--addr <ADDR>] [--workers <WORKERS>] [--mount-path <MOUNT_PATH>]\n"
    ++ "    [--client-out <CLIENT_OUT>]\n"
    ++ "  inspect [--handler <HANDLER> | --define <DEFINE>]\n"

/-- The lines that name the causes of an error, numbered if there are several. -/
def causeLines : List String → List String
  | [] => []
  | [cause] => ["    " ++ cause]
  | causes => causes.mapIdx fun i cause => "    " ++ toString i ++ ": " ++ cause

/-- The text of an error with its causes. -/
def report (message : String) (causes : List String) : String :=
  let lines := match causeLines causes with
    | [] => []
    | lines => "" :: "Caused by:" :: lines
  "\n".intercalate (("Error: " ++ message) :: lines)

/-- The path of the file of settings that a command reads. -/
def configOf : Command → Option String
  | .serve options => options.config
  | _ => none

/-- The path at which a command may write. -/
def targetOf (settings : Settings) : Command → Option String
  | .generate out _ => some out
  | .serve _ => settings.clientOut
  | .inspect _ _ => none

/-- The values of the variables that are set. -/
def readEnvironment : IO Environment :=
  variableNames.filterMapM fun name => do return (← IO.getEnv name).map fun value => (name, value)

/-- Something is at a path. -/
def isThere (path : String) : IO Bool := do
  try
    let _ ← IO.FS.realPath path
    return true
  catch _ => return false

/-- A directory with what there is along a path; files count as empty. -/
def survey (directory : Directory) (text : String) : IO Directory :=
  match Path.parse text with
  | .error _ => return directory
  | .ok path => path.along.foldlM look directory
where
  /-- Looks what a path leads to. -/
  look (directory : Directory) (path : Path) : IO Directory := do
    if path.steps.isEmpty then return directory
    else if ← isThere ({ path with steps := path.steps ++ ["."] }).print then
      return { directory with folders := path.names :: directory.folders }
    else if ← isThere path.print then
      return { directory with files := directory.files ++ [(path.names, "")] }
    else return directory

/-- A directory with the content of the file at a path; what cannot be read counts as empty. -/
def readAt (directory : Directory) (path : String) : IO Directory := do
  let directory ← survey directory path
  let names := (Path.ofText path).names
  if (directory.content? names).isNone then return directory
  try return { directory with files := Directory.setFile names (← IO.FS.readFile path) directory.files }
  catch _ => return directory

/-- Writes the file at a path if a command changed it. -/
def writeChanged (before after : Directory) (path : String) : IO Unit := do
  let names := (Path.ofText path).names
  match after.content? names with
  | none => return ()
  | some content => if before.content? names != some content then IO.FS.writeFile path content

/-- Writes what a command leaves at a path; a failure is the result of the command unless it failed before. -/
def finish (before : Directory) (done : CommandOutcome) (path : String) : IO UInt32 := do
  try writeChanged before done.directory path
  catch e =>
    let reason := e.toString
    IO.eprintln (report ("failed to generate client at " ++ path) ["failed to write client: " ++ reason, reason])
    return 1
  IO.print done.output
  match done.result with
  | .ok _ => return 0
  | .error error =>
    IO.eprintln (report error.message error.causes)
    return 1

/-- Runs a command in the directory it is called in. -/
def run (command : Command) : IO UInt32 := do
  let environment ← readEnvironment
  let directory ← match configOf command with
    | none => pure Directory.empty
    | some path => readAt Directory.empty path
  let options := match command with
    | .serve options => options
    | _ => ⟨none, none, none, none, none⟩
  let settings := match resolveSettings ⟨directory, environment, .isolated⟩ options with
    | .ok settings => settings
    | .error _ => Settings.default
  match targetOf settings command with
  | none => finish directory (command.run program ⟨directory, environment, .isolated⟩) ""
  | some path =>
    let directory ← survey directory path
    finish directory (command.run program ⟨directory, environment, .isolated⟩) path

end TypedRpc.Console

/-- Reads the command line and runs the command. -/
def main (args : List String) : IO UInt32 := do
  match TypedRpc.Command.parse args with
  | .ok command => TypedRpc.Console.run command
  | .error .help =>
    IO.print TypedRpc.Console.usage
    return 0
  | .error _ =>
    IO.eprint TypedRpc.Console.usage
    return 2
