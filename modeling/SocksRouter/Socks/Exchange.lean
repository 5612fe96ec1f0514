import SocksRouter.Name.Resolver
import SocksRouter.Socks.Dialer
import SocksRouter.Socks.Relay

/-!
# Exchanges

What one session works with: the connection to its client, the dialer for its outgoing connection,
and the events so far. Operations may stop at a fault; what was done before it stays done. The
remote connection is that of the latest attempt of the dialer.
-/

namespace SocksRouter

/-- What one session works with. -/
structure Exchange where
  /-- The connection to the client. -/
  client : Channel
  /-- What makes the outgoing connection. -/
  dialer : Dialer := {}
  /-- What the session did, in order. -/
  events : List Event := []

/-- Operations of a session that may stop at a fault. -/
abbrev InSession := ExceptT Fault (StateM Exchange)

namespace InSession

variable {α : Type}

/-- Works on the connection to the client. -/
def onClient (operation : OnChannel α) : InSession α :=
  fun exchange ↦
    let (outcome, client) := operation exchange.client
    (outcome, { exchange with client })

/-- Works on the remote connection. Without one, it is reported as not connected. -/
def onRemote (operation : OnChannel α) : InSession α :=
  fun exchange ↦
    match exchange.dialer.latest? with
    | none => (.error .notConnected, exchange)
    | some remote =>
      let (outcome, remote) := operation remote
      (outcome, { exchange with dialer := exchange.dialer.setLatest remote })

/-- Opens a remote connection. -/
def dial (host : String) (port : Int) (timeout : Seconds) : InSession Unit :=
  fun exchange ↦
    let (outcome, dialer) := exchange.dialer.dial host port timeout
    (outcome, { exchange with dialer })

/-- Makes a decision, whose events become events of the session. -/
def deciding (decision : Deciding α) : InSession α :=
  fun exchange ↦
    (decision.run.value, { exchange with events := exchange.events ++ decision.run.events })

/-- Reports something. -/
def report (what : Notice) : InSession Unit :=
  deciding (Deciding.report what)

/-- Relays between the client and the remote connection. -/
def relay : InSession RelayEnd :=
  fun exchange ↦
    match exchange.dialer.latest? with
    | none => (.error .notConnected, exchange)
    | some remote =>
      let (ending, after) := Relay.run ⟨exchange.client, remote, true, true⟩
      (.ok ending,
        { exchange with
          client := after.client
          dialer := exchange.dialer.setLatest after.remote })

/-- Runs an operation and closes the remote connection behind it, however it ended. A fault in
closing takes the place of its outcome. -/
def closingRemote (operation : InSession α) : InSession α :=
  fun exchange ↦
    let (outcome, exchange) := operation exchange
    match onRemote (fun ch ↦ ch.close) exchange with
    | (.ok (), exchange) => (outcome, exchange)
    | (.error fault, exchange) => (.error fault, exchange)

/-- Runs an operation and tells how it ended; a fault does not go further. -/
def outcomeOf (operation : InSession α) : InSession (Except Fault α) :=
  fun exchange ↦
    let (outcome, exchange) := operation exchange
    (.ok outcome, exchange)

end InSession

end SocksRouter
