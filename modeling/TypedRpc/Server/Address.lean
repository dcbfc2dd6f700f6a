import TypedRpc.Number.Unsigned
import TypedRpc.Text.Split

/-!
Addresses on which a server listens: a host and a port with a colon between them. Whether a host is known, and
whether a server may listen there, is up to the network.
-/

namespace TypedRpc.Server

open TypedRpc.Text

/-- A host and a port. -/
structure Address where
  host : String
  port : Nat
  deriving DecidableEq, Repr

/-- Why a server cannot listen. -/
inductive BindError where
  | noPort
  | badPort
  | nulInHost
  | unknownHost
  | unavailable
  deriving DecidableEq, Repr

/-- The text of the error. -/
def BindError.message : BindError → String
  | .noPort => "invalid socket address"
  | .badPort => "invalid port value"
  | .nulInHost => "file name contained an unexpected NUL byte"
  | .unknownHost => "failed to lookup address information: Name or service not known"
  | .unavailable => "Cannot assign requested address (os error 99)"

/-- Reads an address: the port is what follows the last colon. -/
def Address.parse (s : String) : Except BindError Address :=
  match splitLast ':' s.toList with
  | none => .error .noPort
  | some (host, port) =>
    match Unsigned.parse? (String.ofList port) with
    | some port => if port < Nat.pow 2 16 then .ok ⟨String.ofList host, port⟩ else .error .badPort
    | none => .error .badPort

/-- What a server can do on a network. -/
structure Network where
  /-- The host has an address. -/
  knows : String → Bool
  /-- A server may listen on the address. -/
  opens : Address → Bool

namespace Network

/-- A part of a numeric address. -/
def isByte (cs : List Char) : Bool :=
  !cs.isEmpty && cs.all Char.isDigit && ((Unsigned.ofDigits? 10 cs).any (· < 256))

/-- A host that is an address itself. -/
def isNumeric (host : String) : Bool :=
  let parts := splitWhere (· == '.') host.toList
  parts.length == 4 && parts.all isByte

/-- A network that knows numeric hosts only, and on which no server may listen. -/
def isolated : Network :=
  ⟨isNumeric, fun _ => false⟩

/-- The address on which a server listens when it is asked to listen on the written one. -/
def listen (network : Network) (addr : String) : Except BindError Address :=
  match Address.parse addr with
  | .error e => .error e
  | .ok address =>
    if address.host.toList.contains '\x00' then .error .nulInHost
    else if !network.knows address.host then .error .unknownHost
    else if network.opens address then .ok address
    else .error .unavailable

end Network

end TypedRpc.Server
