import SocksRouter.Log.Trace
import SocksRouter.Socks.Session
import SocksRouter.Wire.Channel

/-!
# The registry of sessions

The registry holds the sessions that are alive, numbers sessions from one on, and owns the
connections they use. A session leaves the registry once, and its connection is released when it
does; removing a session that is not there does nothing. Connections may be shared between sessions.
-/

namespace SocksRouter

/-- The sessions that are alive, and the connections. -/
structure Registry where
  /-- The forward proxy that new sessions get unless they bring their own. -/
  forward : Option ForwardProxy := none
  /-- The sessions that are alive, in the order they came. -/
  live : List Session := []
  /-- How many sessions were ever made. -/
  issued : Nat := 0
  /-- All connections, by their place. -/
  transports : List Channel := []
  deriving Repr

namespace Registry

/-- The number of sessions that are alive. -/
def count (registry : Registry) : Nat :=
  registry.live.length

/-- Whether a session is alive. Sessions are told apart by their numbers. -/
def contains (registry : Registry) (session : Session) : Bool :=
  registry.live.any fun other ↦ other.id = session.id

/-- Takes a connection in and tells its place. -/
def addTransport (registry : Registry) (ch : Channel) : Nat × Registry :=
  (registry.transports.length, { registry with transports := registry.transports ++ [ch] })

/-- Makes a session without registering it. -/
def makeSession (registry : Registry) (transport : Nat) (address : Option (List AddressPart))
    (forward : Option ForwardProxy) : Session × Registry :=
  (⟨registry.issued + 1, transport, address, forward⟩,
    { registry with issued := registry.issued + 1 })

/-- Makes a session and registers it. -/
def accept (registry : Registry) (transport : Nat) (address : Option (List AddressPart))
    (forward : Option ForwardProxy) : Traced (Session × Registry) := do
  let (session, registry) := registry.makeSession transport address (forward.or registry.forward)
  let registry := { registry with live := registry.live ++ [session] }
  Traced.report (.sessionOpened session.id registry.count)
  return (session, registry)

/-- Releases the connection of a session. -/
def release (registry : Registry) (session : Session) : Registry :=
  { registry with transports := registry.transports.modify session.transport Channel.release }

/-- Removes a session and releases its connection, if the session is alive. -/
def disconnect (registry : Registry) (session : Session) : Traced Registry :=
  if registry.contains session then do
    let live := registry.live.filter fun other ↦ other.id ≠ session.id
    Traced.report (.sessionClosed session.id live.length)
    return release { registry with live } session
  else return registry

/-- Removes all sessions and releases their connections. -/
def closeAll (registry : Registry) : Traced Registry := do
  if !registry.live.isEmpty then Traced.report (.sessionsClosed registry.count)
  return registry.live.foldl release { registry with live := [] }

end Registry

end SocksRouter
