import SocksRouter.Country.Database
import SocksRouter.Idna.Label
import SocksRouter.Socks.ForwardProxy
import SocksRouter.Wire.Field

/-!
# Faults

Whatever can stop a session: what a connection reports, what the forward proxy refuses, what cannot
be put on the wire or read from it, and what the name services and the country data report. Who
handles a fault depends only on its class: `isSystem` are the faults of connections and of the
operating system, `isRefusal` those of the forward proxy.
-/

namespace SocksRouter

open Text

/-- Why no tunnel through the forward proxy comes about. -/
inductive TunnelError
  /-- The host name cannot be sent. -/
  | badName (host : String) (cause : Idna.NameError)
  /-- The host name is longer than 255 bytes on the wire. -/
  | longName (host : String)
  /-- The proxy does not accept a client without credentials. -/
  | methodRefused (target : ForwardProxy)
  /-- The proxy does not connect to the destination. -/
  | connectRefused (target : ForwardProxy) (host : String) (port : Int) (status : UInt8)
  /-- The proxy names its address in an unknown form. -/
  | unknownAddressType (type : UInt8)
  deriving DecidableEq, Repr

/-- The wording of a tunnel error. -/
def TunnelError.message : TunnelError → String
  | .badName host cause => s!"Invalid domain for SOCKS5: {quote host}: {cause.message}"
  | .longName host => s!"Domain too long for SOCKS5: {host}"
  | .methodRefused target => s!"Forward proxy {target} refused no-auth negotiation"
  | .connectRefused target host port status =>
    s!"Forward proxy {target} failed CONNECT to {host}:{port} with status {status}"
  | .unknownAddressType type => s!"Forward proxy replied with unknown address type {type}"

/-- What stops a session or a decision. -/
inductive Fault
  /-- A failure reported from outside. -/
  | outside (failure : Failure)
  /-- The peer ended its stream inside a message. -/
  | closedEarly (got wanted : Nat)
  /-- The peer broke the connection. -/
  | reset
  /-- Nothing came in time. -/
  | timedOut
  /-- The peer takes no more bytes. -/
  | brokenPipe
  /-- The connection is not there any more. -/
  | notConnected
  /-- Closing the connection failed. -/
  | inputOutput
  /-- The host name of a request is no text. -/
  | unreadableName (cause : Utf8Error)
  /-- No tunnel came about. -/
  | refusal (cause : TunnelError)
  /-- A number does not fit its place on the wire. -/
  | field (cause : FieldError)
  /-- A connection has no local address. -/
  | noLocalName
  /-- The name servers answered with no address. -/
  | noAddress
  /-- The country data gave no answer. -/
  | lookup (cause : LookupError)
  /-- The code of a country cannot be put in lower case. -/
  | countryCode (word : String)
  deriving DecidableEq, Repr

namespace Fault

/-- The wording of a fault. -/
def message : Fault → String
  | outside failure => failure.text
  | closedEarly got wanted => s!"Connection closed after {got} of {wanted} bytes"
  | reset => "[Errno 104] Connection reset by peer"
  | timedOut => "timed out"
  | brokenPipe => "[Errno 32] Broken pipe"
  | notConnected => "[Errno 107] Transport endpoint is not connected"
  | inputOutput => "[Errno 5] Input/output error"
  | unreadableName cause => cause.message
  | refusal cause => cause.message
  | field cause => cause.message
  | noLocalName => "tuple index out of range"
  | noAddress => "list index out of range"
  | lookup cause => cause.message
  | countryCode word => s!"'{word}' object has no attribute 'lower'"

/-- Whether a fault comes from a connection or from the operating system. -/
def isSystem : Fault → Bool
  | outside failure => failure.kind.isSystem
  | closedEarly .. | reset | timedOut | brokenPipe | notConnected | inputOutput => true
  | _ => false

/-- Whether a fault is a name that cannot be encoded or decoded. -/
def isEncoding : Fault → Bool
  | outside failure => failure.kind = .encoding
  | unreadableName _ => true
  | _ => false

/-- Whether a fault is a refusal by the forward proxy. -/
def isRefusal : Fault → Bool
  | refusal _ => true
  | _ => false

end Fault

end SocksRouter
