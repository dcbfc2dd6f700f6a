import TypedRpc.Client.Print
import TypedRpc.Command.Basic
import TypedRpc.Directory
import TypedRpc.Server.Address
import TypedRpc.Server.HttpServer
import TypedRpc.Server.SettingsFile
import TypedRpc.Service

/-!
Running commands. A command sees a directory, the environment and a network, and leaves a directory, a text and a
result. Nothing is written before all that could fail without writing has succeeded.
-/

namespace TypedRpc

open TypedRpc.Server TypedRpc.Text

/-- Why a client is not written. -/
inductive ClientError where
  | generation (error : GenerationError)
  | file (error : FileError)

namespace ClientError

/-- The text of the error. -/
def message : ClientError → String
  | .generation error => error.message
  | .file error => "failed to write client: " ++ error.message

/-- The text of the error, and of what caused it. -/
def chain : ClientError → List String
  | .generation error => [message (.generation error)]
  | .file error => [message (.file error), error.message]

end ClientError

/-- Why a command fails. -/
inductive CommandError where
  /-- Not all handlers could be registered. -/
  | registration (failure : Failure)
  | settings (error : SettingsError)
  | client (path : String) (error : ClientError)
  | generation (error : GenerationError)
  | unknownHandler (key : String)
  | bind (addr : String) (error : BindError)

namespace CommandError

/-- The text of the error. -/
def message : CommandError → String
  | .registration _ => "handler registration failed"
  | .settings error => error.message
  | .client path _ => "failed to generate client at " ++ path
  | .generation error => error.message
  | .unknownHandler key => s!"no handler registered as '{key}'"
  | .bind addr _ => "failed to bind " ++ addr

/-- What caused the error, the nearest cause first. -/
def causes : CommandError → List String
  | .registration failure => failure.message :: failure.causes
  | .settings error => [error.cause]
  | .client _ error => error.chain
  | .generation _ => []
  | .unknownHandler _ => []
  | .bind _ error => [error.message]

end CommandError

/-- What a command finds. -/
structure Surroundings where
  directory : Directory
  environment : Environment
  network : Network

/-- What comes of a command that succeeds. -/
inductive Success where
  /-- All is done. -/
  | done
  /-- The server is about to serve. -/
  | serving (server : HttpServer) (address : Address)

/-- What comes of a command. -/
structure CommandOutcome where
  /-- What it prints. -/
  output : String
  directory : Directory
  result : Except CommandError Success

/-- The handlers that commands are about. -/
structure Program where
  /-- The slots of the types that the handlers use. -/
  slots : SlotTable
  setup : Setup Unit

namespace Program

/-- The service of all handlers. -/
def build (program : Program) (mount : Mount) : Except CommandError Service :=
  match (Service.empty mount program.slots).setUp program.setup with
  | (.ok (), service) => .ok service
  | (.error failure, _) => .error (.registration failure)

end Program

/-! ## Writing clients -/

/-- The directory with the client of a registry at a path. -/
def writeClient (registry : Registry) (directory : Directory) (path : String) : Except CommandError Directory :=
  match Client.ofRegistry registry with
  | .error e => .error (.client path (.generation e))
  | .ok client =>
    match directory.write path client.print with
    | .error e => .error (.client path (.file e))
    | .ok directory => .ok directory

/-- A command that fails before it does anything. -/
def CommandOutcome.failed (surroundings : Surroundings) (error : CommandError) : CommandOutcome :=
  ⟨"", surroundings.directory, .error error⟩

/-- Writes the client of the handlers. -/
def runGenerate (program : Program) (surroundings : Surroundings) (out : String) (mountPath : Option String) :
    CommandOutcome :=
  let written := do
    let service ← program.build ((mountPath.map Mount.below).getD Mount.root)
    return (service, ← writeClient service.registry surroundings.directory out)
  match written with
  | .error e => .failed surroundings e
  | .ok (service, directory) =>
    ⟨s!"wrote client for {service.registry.handlers.length} handlers to {out}\n", directory, .ok .done⟩

/-! ## Serving -/

/-- The settings of all layers. -/
def resolveSettings (surroundings : Surroundings) (options : ServeOptions) : Except SettingsError Settings := do
  let file ← match options.config with
    | none => .ok Layer.empty
    | some path => Layer.load path ((surroundings.directory.read path).mapError FileError.message)
  return ((Settings.default.apply file).apply (Layer.ofEnvironment surroundings.environment)).apply options.layer

/-- Serves the handlers, after writing their client if the settings say so. -/
def runServe (program : Program) (surroundings : Surroundings) (options : ServeOptions) : CommandOutcome :=
  let prepared := do
    let settings ← (resolveSettings surroundings options).mapError CommandError.settings
    let service ← program.build settings.mount
    let directory ← match settings.clientOut with
      | none => .ok surroundings.directory
      | some path => writeClient service.registry surroundings.directory path
    return (settings, service, directory)
  match prepared with
  | .error e => .failed surroundings e
  | .ok (settings, service, directory) =>
    match surroundings.network.listen settings.addr with
    | .error e => ⟨"", directory, .error (.bind settings.addr e)⟩
    | .ok address => ⟨"", directory, .ok (.serving (.ofSettings service.router settings) address)⟩

/-! ## Inspecting -/

/-- The line of a handler in the list. -/
def listingLine (registration : Registration) : String :=
  let arguments := if registration.inputIsEmpty then "()" else "(params)"
  s!"POST {registration.route}\t{registration.identity.key}{arguments}\n"

/-- The handler of a key. -/
def findHandler (registry : Registry) (key : String) : Except CommandError Registration :=
  match registry.get? key with
  | some registration => .ok registration
  | none => .error (.unknownHandler key)

/-- The types of a handler, and the definitions that they need. -/
def showTypes (registry : Registry) (key : String) : Except CommandError String := do
  let registration ← findHandler registry key
  match registry.describe registration with
  | .error e => throw (.generation e)
  | .ok (compiled, definitions) =>
    return join "" (("input: " ++ compiled.input.print ++ "\n") :: ("output: " ++ compiled.output.print ++ "\n")
      :: definitions.map fun definition => "\n" ++ definition.print ++ "\n")

/-- The definition of the output of a handler. -/
def showDefinition (registry : Registry) (key : String) : Except CommandError String := do
  let registration ← findHandler registry key
  match (Compiler.defineType registry.slots registration.signature.output .empty).1 with
  | .error e => throw (.generation e)
  | .ok definition => return definition.print ++ "\n"

/-- Shows the types of a handler or the definition of its output, or lists the handlers. -/
def runInspect (program : Program) (surroundings : Surroundings) (handler define : Option String) :
    CommandOutcome :=
  let shown := do
    let service ← program.build Mount.root
    match handler, define with
    | some key, _ => showTypes service.registry key
    | none, some key => showDefinition service.registry key
    | none, none => return join "" (service.registry.registrations.map listingLine)
  match shown with
  | .error e => .failed surroundings e
  | .ok output => ⟨output, surroundings.directory, .ok .done⟩

/-- Runs a command. -/
def Command.run (program : Program) (surroundings : Surroundings) : Command → CommandOutcome
  | .generate out mountPath => runGenerate program surroundings out mountPath
  | .serve options => runServe program surroundings options
  | .inspect handler define => runInspect program surroundings handler define

end TypedRpc
