import SocksRouter.Engine.Decision
import SocksRouter.Socks.Exchange
import SocksRouter.Socks.Request
import SocksRouter.Socks.Session
import SocksRouter.Socks.Tunnel

/-!
# Serving a session

A session agrees on a method, reads a request, lets a policy decide, opens the remote connection,
and relays until both streams have ended. Whatever stops it before that, the client learns in one
reply, as far as it can still be told.

The remote connection is a tunnel through the forward proxy when the decision says so and the
session has a proxy; in every other case it goes to the destination itself.
-/

namespace SocksRouter

open Socks

/-- Opens a tunnel to a destination through a forward proxy. -/
def InSession.openTunnel (target : ForwardProxy) (host : String) (port : Int) (timeout : Seconds) :
    InSession Unit := do
  InSession.dial target.host target.port timeout
  InSession.onRemote (Tunnel.establish target host port)

namespace Session

/-- Replies to the request of the client. -/
def answer (status : Status) (bound : LocalName := noBound) : InSession Unit :=
  InSession.onClient (reply status.code bound)

/-- Opens the connection to a destination. -/
def openRemote (session : Session) (action : Action) (host : String) (port : Nat) :
    InSession Unit :=
  match action, session.forward with
  | .proxy, some target => do
    InSession.report (.sessionVia session.id target host port)
    InSession.openTunnel target host port connectTimeout
  | _, _ => do
    InSession.dial host port connectTimeout
    InSession.onRemote (Channel.limitTime none)

/-- Tells the client that the connection is there, and relays. -/
def converse : InSession Unit :=
  InSession.closingRemote do
    match ← InSession.onRemote (fun ch ↦ (.ok ch.localName, ch)) with
    | none => throw .noLocalName
    | some bound =>
      answer .success bound
      match ← InSession.relay with
      | .failed cause => InSession.report (.relayFailed cause)
      | .finished | .idle => return ()

/-- Connects the client to a destination, if the policy allows it. -/
def connect (session : Session) (policy : Policy) (host : String) (port : Nat) :
    InSession Unit := do
  let action ← InSession.deciding (policy host)
  if action = .reject then
    InSession.report (.sessionRejected session.id host port)
    answer .notAllowed
  else
    match ← InSession.outcomeOf (session.openRemote action host port) with
    | .ok () => converse
    | .error cause =>
      if cause.isRefusal then
        InSession.report (.tunnelFailed cause)
        answer .generalFailure
      else if cause.isSystem ∨ cause.isEncoding then
        InSession.report (.connectFailed host port cause)
        answer .hostUnreachable
      else throw cause

/-- Handles the request of the client. An unknown address type is answered before anything else is
looked at. -/
def handle (session : Session) (policy : Policy) : InSession Unit := do
  if ← InSession.onClient negotiate then
    let request ← InSession.onClient readRequest
    match request.destination with
    | none => answer .addressNotSupported
    | some (host, port) =>
      if request.version ≠ version ∨ request.command ≠ connectCommand then
        answer .commandNotSupported
      else session.connect policy host port

/-- How a session that stopped at a fault is reported. -/
def endNotice (session : Session) (cause : Fault) : Notice :=
  match cause with
  | .unreadableName _ => .sessionEnded session.id cause
  | _ => if cause.isSystem then .sessionEnded session.id cause else .sessionFailed session.id

/-- Serves a session to its end. -/
def serve (session : Session) (policy : Policy) (exchange : Exchange) : Exchange :=
  match session.handle policy exchange with
  | (.ok (), exchange) => exchange
  | (.error cause, exchange) =>
    { exchange with events := exchange.events ++ [.notice (session.endNotice cause)] }

end Session

end SocksRouter
