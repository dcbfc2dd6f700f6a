import TypedRpc.Server.Settings
import TypedRpc.Text.Quoted

/-! The commands, as they are given on the command line. -/

namespace TypedRpc

open TypedRpc.Text

/-- What a server is told on the command line. -/
structure ServeOptions where
  /-- The path of a file of settings. -/
  config : Option String
  addr : Option String
  workers : Option Nat
  mountPath : Option String
  clientOut : Option String
  deriving DecidableEq, Repr

/-- A command. -/
inductive Command where
  /-- Writes the client of the handlers to a file. -/
  | generate (out : String) (mountPath : Option String)
  /-- Serves the handlers. -/
  | serve (options : ServeOptions)
  /-- Lists the handlers, or shows the types of one, or the definition of its output. -/
  | inspect (handler define : Option String)
  deriving DecidableEq, Repr

/-- The layer of settings that the command line makes. -/
def ServeOptions.layer (options : ServeOptions) : Server.Layer where
  addr := options.addr
  workers := options.workers
  maxBodyBytes := none
  mountPath := options.mountPath
  clientOut := options.clientOut.map some

namespace Command

/-- Something that need not be there, written out. -/
def printOption {α : Type} (print : α → String) : Option α → String
  | none => "None"
  | some value => "Some(" ++ print value ++ ")"

/-- A command written out for inspection. -/
def print : Command → String
  | .generate out mountPath =>
    "Generate \x7b out: " ++ quotePath out ++ ", mount_path: " ++ printOption quote mountPath ++ " \x7d"
  | .serve options =>
    "Serve \x7b config: " ++ printOption quotePath options.config ++ ", addr: " ++ printOption quote options.addr
      ++ ", workers: " ++ printOption toString options.workers ++ ", mount_path: "
      ++ printOption quote options.mountPath ++ ", client_out: " ++ printOption quotePath options.clientOut
      ++ " \x7d"
  | .inspect handler define =>
    "Inspect \x7b handler: " ++ printOption quote handler ++ ", define: " ++ printOption quote define ++ " \x7d"

end Command

end TypedRpc
