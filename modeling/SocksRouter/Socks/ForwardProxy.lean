import SocksRouter.Text.Blank
import SocksRouter.Text.Digits
import SocksRouter.Text.Fields

/-!
# Forward proxies

The address of the proxy that connections are sent through. It is written `host:port`; the host may
stand in square brackets, as an IPv6 address has to be read, and the port is what follows the last
colon. The port is a digit string in the wide sense, so it can still fail to be a number.
-/

namespace SocksRouter

open Text

/-- The address of a forward proxy. -/
structure ForwardProxy where
  /-- The name or address of the proxy. -/
  host : String
  /-- Its port. -/
  port : Int
  deriving DecidableEq, Repr

namespace ForwardProxy

instance : ToString ForwardProxy := ⟨fun p ↦ p.host ++ ":" ++ toString p.port⟩

/-- Why a text is no proxy address. -/
inductive ParseError
  /-- The host or the port is missing, or the port is no port. -/
  | malformed (text : String)
  /-- The digits of the port make no number. -/
  | port (cause : NumberError)
  deriving DecidableEq, Repr

/-- The wording of a proxy address error. -/
def ParseError.message : ParseError → String
  | .malformed text => s!"Invalid forward proxy address {quote text}, expected host:port"
  | .port cause => cause.message

/-- Whether a character is a square bracket. -/
def isBracket (c : Char) : Bool :=
  c = '[' ∨ c = ']'

/-- Reads a proxy address. -/
def parse (text : String) : Except ParseError ForwardProxy :=
  match cutLast ':' (strip text.toList) with
  | none => .error (.malformed text)
  | some (before, port) =>
    let host := stripOf isBracket before
    if host.isEmpty ∨ !isDigitString port then .error (.malformed text)
    else match readNumber port with
      | .error cause => .error (.port cause)
      | .ok n =>
        if 0 < n ∧ n < 65536 then .ok ⟨String.ofList host, n⟩ else .error (.malformed text)

end ForwardProxy

end SocksRouter
