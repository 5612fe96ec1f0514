import SocksRouter.Address.IPv4
import SocksRouter.Fault
import SocksRouter.Text.Utf8
import SocksRouter.Wire.Exact

/-!
# The messages of SOCKS version 5

The parts of the protocol that both sides share: the numbers that stand for methods, commands,
address types and outcomes, a destination as it is written on the wire, and the reply to a request.

A destination is an address type, an address and a port. A dotted quad is written as four bytes, any
other host as a name with its length in front.
-/

namespace SocksRouter.Socks

open Text

/-- The version of the protocol. -/
def version : UInt8 := 5

/-- The method of a client without credentials. -/
def noCredentials : UInt8 := 0

/-- The answer when no method is acceptable. -/
def noMethod : UInt8 := 0xFF

/-- The command to connect. -/
def connectCommand : UInt8 := 1

/-- The type of a four-byte address. -/
def typeIPv4 : UInt8 := 1

/-- The type of a name. -/
def typeName : UInt8 := 3

/-- The type of a sixteen-byte address. -/
def typeIPv6 : UInt8 := 4

/-- The longest name that has a length byte. -/
def maxNameLength : Nat := 255

/-- The time within which a connection has to be made. -/
def connectTimeout : Seconds := ⟨100, 1⟩

/-- The outcomes of a request that the server tells. -/
inductive Status
  /-- The connection is there. -/
  | success
  /-- The forward proxy did not cooperate. -/
  | generalFailure
  /-- The rules forbid the connection. -/
  | notAllowed
  /-- The destination was not reached. -/
  | hostUnreachable
  /-- The command is not known. -/
  | commandNotSupported
  /-- The address type is not known. -/
  | addressNotSupported
  deriving DecidableEq, Repr

/-- The number of an outcome. -/
def Status.code : Status → Nat
  | success => 0
  | generalFailure => 1
  | notAllowed => 2
  | hostUnreachable => 4
  | commandNotSupported => 7
  | addressNotSupported => 8

/-- A destination on the wire. -/
def encodeDestination (host : String) (port : Int) : Except Fault Bytes :=
  match IPv4.parse? host with
  | some ip => do
    let port ← (shortField port).mapError .field
    return typeIPv4 :: ip.octets ++ port
  | none => do
    let name ← (Idna.encode host).mapError fun cause ↦ .refusal (.badName host cause)
    if name.length > maxNameLength then throw (.refusal (.longName host))
    let port ← (shortField port).mapError .field
    return typeName :: UInt8.ofNat name.length :: name ++ port

/-- The address that stands in replies where there is no other. -/
def defaultBound : IPv4 := ⟨127, 0, 0, 1⟩

/-- The reply to a request. A bound address that is no dotted quad is replaced, port and all. -/
def encodeReply (status : Int) (bound : LocalName) : Except Fault Bytes := do
  let (ip, port) := match IPv4.parse? bound.host with
    | some ip => (ip, bound.port)
    | none => (defaultBound, 0)
  let status ← (byteField status).mapError .field
  let port ← (shortField port).mapError .field
  return version :: status ++ 0 :: typeIPv4 :: ip.octets ++ port

/-- The local name that stands for none. -/
def noBound : LocalName :=
  ⟨"127.0.0.1", 0⟩

/-- Sends the reply to a request. -/
def reply (status : Int) (bound : LocalName := noBound) : OnChannel Unit := do
  Channel.sendAll (← Channel.ofOutcome (encodeReply status bound))

end SocksRouter.Socks
