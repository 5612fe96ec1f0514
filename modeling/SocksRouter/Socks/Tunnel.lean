import SocksRouter.Socks.Protocol

/-!
# Tunnels through the forward proxy

The client's side of the protocol. The router offers to go without credentials, asks for the
destination, and reads the reply up to the last byte of the bound address, so that the next byte is
the first one from the destination. Whatever goes wrong, the connection to the proxy is closed.
-/

namespace SocksRouter

open Socks

namespace Channel

/-- Runs an operation and closes the channel if it stops at a fault. A fault in closing takes the
place of the first one. -/
def orClose {α : Type} (operation : OnChannel α) : OnChannel α :=
  fun ch ↦
    match operation ch with
    | (.ok a, ch) => (.ok a, ch)
    | (.error fault, ch) =>
      match ch.close with
      | (.ok (), ch) => (.error fault, ch)
      | (.error later, ch) => (.error later, ch)

end Channel

namespace Tunnel

/-- Reads the bound address of a reply and drops it. -/
def skipBound (type : UInt8) : OnChannel Unit := do
  if type = typeIPv4 then
    discard (Channel.receiveExact 6)
  else if type = typeIPv6 then
    discard (Channel.receiveExact 18)
  else if type = typeName then
    let length ← Channel.receiveExact 1
    discard (Channel.receiveExact ((length.getD 0 0).toNat + 2))
  else
    throw (.refusal (.unknownAddressType type))

/-- The exchange with the forward proxy. -/
def handshake (target : ForwardProxy) (host : String) (port : Int) : OnChannel Unit := do
  Channel.sendAll [version, 1, noCredentials]
  let answer ← Channel.receiveExact 2
  if answer.getD 0 0 ≠ version ∨ answer.getD 1 0 ≠ noCredentials then
    throw (.refusal (.methodRefused target))
  let destination ← Channel.ofOutcome (encodeDestination host port)
  Channel.sendAll ([version, connectCommand, 0] ++ destination)
  let head ← Channel.receiveExact 4
  if head.getD 0 0 ≠ version ∨ head.getD 1 0 ≠ 0 then
    throw (.refusal (.connectRefused target host port (head.getD 1 0)))
  skipBound (head.getD 3 0)

/-- Makes a connection to the forward proxy a tunnel to the destination. -/
def establish (target : ForwardProxy) (host : String) (port : Int) : OnChannel Unit :=
  Channel.orClose do
    handshake target host port
    Channel.limitTime none

end Tunnel

end SocksRouter
