import SocksRouter.Socks.ForwardProxy

/-!
# Sessions

A session is a client connection that the router owns: a number that no other session has, the
connection itself, the address of the client as the system gave it, and the forward proxy that the
session may use. All of it is fixed when the session is made.
-/

namespace SocksRouter

open Text

/-- A part of a peer address. -/
inductive AddressPart
  /-- A text, such as a host. -/
  | text (value : String)
  /-- A number, such as a port. -/
  | number (value : Int)
  deriving DecidableEq, Repr

/-- A part of a peer address as it is shown: a text stands in quotes. -/
def AddressPart.shown : AddressPart → String
  | text value => quote value
  | number value => toString value

/-- A peer address as it is shown: its parts as a row. -/
def showAddress : Option (List AddressPart) → String
  | none => "None"
  | some parts => rowText (parts.map AddressPart.shown)

/-- A client connection that the router owns. -/
structure Session where
  /-- The number of the session. -/
  id : Nat
  /-- The place of its connection among all connections. -/
  transport : Nat
  /-- The address of the client. -/
  address : Option (List AddressPart)
  /-- The forward proxy of the session. -/
  forward : Option ForwardProxy
  deriving DecidableEq, Repr

instance : ToString Session where
  toString session :=
    let forward := (session.forward.map toString).getD "None"
    s!"Session(id={session.id}, client={showAddress session.address}, forward={forward})"

end SocksRouter
