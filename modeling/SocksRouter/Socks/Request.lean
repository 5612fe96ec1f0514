import SocksRouter.Socks.Protocol

/-!
# Requests of clients

The server's side of the handshake. A client lists the methods it knows; it has to know the one
without credentials. Its request names a command and a destination, by four-byte address or by name.
-/

namespace SocksRouter.Socks

open Text

/-- What a client asks for: its version of the protocol, a command, and a destination unless the
address type is unknown. -/
structure Request where
  /-- The version that the request is written in. -/
  version : UInt8
  /-- The command. -/
  command : UInt8
  /-- The host and the port. -/
  destination : Option (String × Nat)
  deriving DecidableEq, Repr

/-- Agrees on a method. Tells whether that worked; a client of another version gets no answer. -/
def negotiate : OnChannel Bool := do
  let head ← Channel.receiveExact 2
  if head.getD 0 0 ≠ version then return false
  let methods ← Channel.receiveExact (head.getD 1 0).toNat
  if noCredentials ∉ methods then
    Channel.sendAll [version, noMethod]
    return false
  Channel.sendAll [version, noCredentials]
  return true

/-- Reads the host of a request, unless the address type is unknown. -/
def readHost (type : UInt8) : OnChannel (Option String) := do
  if type = typeIPv4 then
    match ← Channel.receiveExact 4 with
    | [a, b, c, d] => return some (IPv4.mk a b c d).toString
    | _ => return none
  else if type = typeName then
    let length ← Channel.receiveExact 1
    let name ← Channel.receiveExact (length.getD 0 0).toNat
    let host ← Channel.ofOutcome ((decodeUtf8 name).mapError .unreadableName)
    return some (String.ofList host)
  else return none

/-- Reads the host and the port of a request. -/
def readDestination (type : UInt8) : OnChannel (Option (String × Nat)) := do
  match ← readHost type with
  | none => return none
  | some host =>
    let port ← Channel.receiveExact 2
    return some (host, shortValue (port.getD 0 0) (port.getD 1 0))

/-- Reads a request. -/
def readRequest : OnChannel Request := do
  let head ← Channel.receiveExact 4
  let destination ← readDestination (head.getD 3 0)
  return ⟨head.getD 0 0, head.getD 1 0, destination⟩

end SocksRouter.Socks
