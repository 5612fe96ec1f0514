import SocksRouter.Wire.Exact

/-!
# Outgoing connections

A dialer makes connections. What will come of each attempt is laid down beforehand, a connection or
a failure; behind the last one every attempt is refused. The attempts are kept with the connections
they gave, the latest first, and operations work on the connection of the latest.
-/

namespace SocksRouter

/-- An attempt to connect. -/
structure Attempt where
  /-- The host that was called. -/
  host : String
  /-- The port that was called. -/
  port : Int
  /-- The time within which the connection had to be made. -/
  timeout : Seconds
  /-- The connection, if one was made. -/
  channel : Option Channel
  deriving DecidableEq, Repr

/-- What makes connections. -/
structure Dialer where
  /-- What will come of the attempts to follow. -/
  pending : List (Except Failure Channel) := []
  /-- The attempts made, the latest first. -/
  attempts : List Attempt := []

namespace Dialer

/-- What comes of an attempt when nothing is laid down. -/
def refused : Failure :=
  ⟨.system, "Connection refused"⟩

/-- What will come of the next attempt. -/
def upcoming (dialer : Dialer) : Except Failure Channel :=
  dialer.pending.head?.getD (.error refused)

/-- Tries to connect. -/
def dial (host : String) (port : Int) (timeout : Seconds) (dialer : Dialer) :
    Except Fault Unit × Dialer :=
  let after (channel : Option Channel) : Dialer :=
    ⟨dialer.pending.tail, ⟨host, port, timeout, channel⟩ :: dialer.attempts⟩
  match dialer.upcoming with
  | .ok channel => (.ok (), after (some channel))
  | .error failure => (.error (.outside failure), after none)

/-- The connection of the latest attempt. -/
def latest? (dialer : Dialer) : Option Channel :=
  dialer.attempts.head?.bind Attempt.channel

/-- Puts a connection in the place of the latest one. -/
def setLatest (channel : Channel) (dialer : Dialer) : Dialer :=
  match dialer.attempts with
  | [] => dialer
  | attempt :: rest =>
    { dialer with attempts := { attempt with channel := some channel } :: rest }

/-- Forgets the attempts made. -/
def forget (dialer : Dialer) : Dialer :=
  { dialer with attempts := [] }

end Dialer

end SocksRouter
