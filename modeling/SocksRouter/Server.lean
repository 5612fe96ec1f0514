import SocksRouter.Engine.Loading
import SocksRouter.Socks.Registry
import SocksRouter.Socks.Serving

/-!
# The server

A server has an engine, the registry of its sessions, and what makes its outgoing connections. It
starts by opening the database, reading the rules and listening: without the database, a path to the
rules, or the address to listen on there is no server, while rules that cannot be read leave it with
none. Then it serves one connection after another, reads its rules again when asked to, and in the
end releases every session that is still alive.
-/

namespace SocksRouter

/-- What a server is asked to be. -/
structure ServerSetup where
  /-- The host to listen on. -/
  host : String
  /-- The port to listen on. -/
  port : Int
  /-- The forward proxy of its sessions. -/
  forward : Option ForwardProxy := none
  /-- The path of the rule file. -/
  configPath : String
  /-- The path of the country database. -/
  databasePath : String
  /-- Whether the rule file is watched: its failures and the forward proxy are reported then. -/
  watches : Bool := true
  /-- Why listening fails, if it does. -/
  listenFailure : Option Failure := none

/-- Why a server does not start. -/
inductive StartError
  /-- There is no country database. -/
  | database (cause : DatabaseError)
  /-- There is no path to the rule file. -/
  | config (cause : Fault)
  /-- The address to listen on is not to be had. -/
  | listen (cause : Failure)
  deriving DecidableEq, Repr

/-- A server that runs. -/
structure Server where
  /-- The rule engine. -/
  engine : Engine
  /-- The sessions. -/
  registry : Registry
  /-- What makes outgoing connections. -/
  dialer : Dialer

/-- What came of serving a connection. -/
structure Served where
  /-- The connection to the client, released. -/
  client : Channel
  /-- The outgoing connections, in the order they were tried. -/
  attempts : List Attempt

namespace Server

/-- Starts a server. -/
def start (setup : ServerSetup) (names : NameService) (dialer : Dialer)
    (config database : FileContent) : Traced (Except StartError Server) := do
  match ← openDatabase setup.databasePath database with
  | .error cause => return .error (.database cause)
  | .ok database =>
    match ← (Engine.ofDatabase names database).load setup.configPath config with
    | (.error cause, _) => return .error (.config cause)
    | (.ok loaded, engine) =>
      if setup.watches then
        if !loaded then Traced.report .startsWithoutRules
        setup.forward.forM fun target ↦ Traced.report (.forwardProxy target)
      match setup.listenFailure with
      | some cause => return .error (.listen cause)
      | none =>
        Traced.report (.serverStarted setup.host setup.port)
        return .ok ⟨engine, { forward := setup.forward }, dialer⟩

/-- What decides about the connections of the server: its rules as they are now. -/
def policy (server : Server) : Policy :=
  server.engine.decide

/-- Registers a connection without serving it. -/
def hold (server : Server) (ch : Channel) (address : List AddressPart) :
    Traced (Session × Server) := do
  let (transport, registry) := server.registry.addTransport ch
  let (session, registry) ← registry.accept transport (some address) none
  return (session, { server with registry })

/-- Serves a registered session to its end: its exchange, and the server without the session. -/
def serveSession (server : Server) (session : Session) (ch : Channel) :
    Traced (Served × Server) := do
  let exchange := session.serve server.policy ⟨ch, server.dialer.forget, []⟩
  let registry :=
    { server.registry with
      transports := server.registry.transports.set session.transport exchange.client }
  let registry ← (⟨registry, exchange.events⟩ : Traced Registry)
  let registry ← registry.disconnect session
  let client := (registry.transports[session.transport]?).getD exchange.client
  return (⟨client, exchange.dialer.attempts.reverse⟩,
    { server with registry, dialer := exchange.dialer })

/-- Registers a connection and serves it to its end. -/
def serveClient (server : Server) (ch : Channel) (address : List AddressPart) :
    Traced (Served × Server) := do
  let (session, server) ← server.hold ch address
  server.serveSession session ch

/-- Reads the rules again. -/
def reload (server : Server) (path : String) (config : FileContent) : Traced Server := do
  return { server with engine := ← server.engine.reload path config }

/-- Stops the server and releases every session. -/
def stop (server : Server) : Traced Unit := do
  Traced.report .serverStopped
  discard server.registry.closeAll
  Traced.report .serverClosed

end Server

end SocksRouter
