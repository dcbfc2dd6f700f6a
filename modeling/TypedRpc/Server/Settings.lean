import TypedRpc.Number.Unsigned
import TypedRpc.Route.Mount
import TypedRpc.Text.Blank

/-!
Settings of a server, in layers. A layer says something about some of the settings; of several layers the last one
that says something about a setting counts. The layers are the defaults, a file, the environment and flags.
-/

namespace TypedRpc.Server

open TypedRpc.Text

/-- The settings of a server. -/
structure Settings where
  /-- The address on which it listens. -/
  addr : String
  /-- How many requests it works on at a time. -/
  workers : Nat
  /-- The size of the largest body that it accepts. -/
  maxBodyBytes : Nat
  mountPath : String
  /-- Where the client is written before it serves, if anywhere. -/
  clientOut : Option String
  deriving DecidableEq, Repr

/-- What a layer says about the settings. -/
structure Layer where
  addr : Option String
  workers : Option Nat
  maxBodyBytes : Option Nat
  mountPath : Option String
  /-- A layer may say that no client is written. -/
  clientOut : Option (Option String)
  deriving DecidableEq, Repr

/-- A layer that says nothing. -/
def Layer.empty : Layer :=
  ⟨none, none, none, none, none⟩

namespace Settings

/-- The settings of which no layer says anything. -/
def default : Settings where
  addr := "0.0.0.0:8080"
  workers := 4
  maxBodyBytes := 1024 * 1024
  mountPath := "/"
  clientOut := none

/-- The settings under a further layer. -/
def apply (settings : Settings) (layer : Layer) : Settings where
  addr := layer.addr.getD settings.addr
  workers := layer.workers.getD settings.workers
  maxBodyBytes := layer.maxBodyBytes.getD settings.maxBodyBytes
  mountPath := layer.mountPath.getD settings.mountPath
  clientOut := layer.clientOut.getD settings.clientOut

/-- Where the server mounts its handlers. -/
def mount (settings : Settings) : Mount :=
  Mount.below settings.mountPath

end Settings

/-- Variables of the environment, by name. -/
abbrev Environment := List (String × String)

namespace Layer

/-- A number in a variable, possibly with blanks around it; anything else says nothing. -/
def numberIn (environment : Environment) (name : String) : Option Nat :=
  (environment.lookup name).bind fun text => Unsigned.parse? (trim text)

/-- The layer of the environment. An empty path of the client says that none is written. -/
def ofEnvironment (environment : Environment) : Layer where
  addr := environment.lookup "TSBRIDGE_ADDR"
  workers := numberIn environment "TSBRIDGE_WORKERS"
  maxBodyBytes := numberIn environment "TSBRIDGE_MAX_BODY_BYTES"
  mountPath := environment.lookup "TSBRIDGE_MOUNT_PATH"
  clientOut := (environment.lookup "TSBRIDGE_CLIENT_OUT").map fun path =>
    if path.isEmpty then none else some path

end Layer

end TypedRpc.Server
