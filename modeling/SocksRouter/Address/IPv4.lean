import SocksRouter.Text.Digits
import SocksRouter.Text.Fields

/-!
# IPv4 addresses

An address is four octets. Its text is the strict dotted quad: four decimal numbers up to 255
between dots, in ASCII digits and without leading zeros, so every address has exactly one text.
A refused text is refused for its first fault, the whole text being looked at before its octets and
the octets from left to right.
-/

namespace SocksRouter

open Text

/-- An IPv4 address, most significant octet first. -/
structure IPv4 where
  /-- The most significant octet. -/
  a : UInt8
  /-- The second octet. -/
  b : UInt8
  /-- The third octet. -/
  c : UInt8
  /-- The least significant octet. -/
  d : UInt8
  deriving DecidableEq, Repr

namespace IPv4

/-- The octets in the order in which they are sent. -/
def octets (ip : IPv4) : List UInt8 :=
  [ip.a, ip.b, ip.c, ip.d]

/-- The address as a number. -/
def toNat (ip : IPv4) : Nat :=
  ((ip.a.toNat * 256 + ip.b.toNat) * 256 + ip.c.toNat) * 256 + ip.d.toNat

/-- The decimal digits of an octet. -/
def octetDigits (n : Nat) : List Char :=
  if n < 10 then [Nat.digitChar n]
  else if n < 100 then [Nat.digitChar (n / 10), Nat.digitChar (n % 10)]
  else [Nat.digitChar (n / 100), Nat.digitChar (n / 10 % 10), Nat.digitChar (n % 10)]

/-- The dotted quad, as characters. -/
def toChars (ip : IPv4) : List Char :=
  octetDigits ip.a.toNat ++ '.' :: octetDigits ip.b.toNat ++ '.' :: octetDigits ip.c.toNat ++
    '.' :: octetDigits ip.d.toNat

/-- The dotted quad. -/
protected def toString (ip : IPv4) : String :=
  String.ofList ip.toChars

instance : ToString IPv4 := ⟨IPv4.toString⟩

/-- What is wrong with the text of an octet. -/
inductive OctetError
  /-- There is no text. -/
  | empty
  /-- Something in it is no ASCII digit. -/
  | notDecimal (text : String)
  /-- It has more than three digits. -/
  | tooLong (text : String)
  /-- It starts with a zero and is not the zero. -/
  | leadingZero (text : String)
  /-- It is above 255. -/
  | tooLarge (value : Nat)
  deriving DecidableEq, Repr

/-- What is wrong with the text of an address. -/
inductive ParseError
  /-- It holds a slash. -/
  | slash (text : String)
  /-- There is no text. -/
  | empty
  /-- It has not exactly three dots. -/
  | octetCount (text : String)
  /-- One of its four octets is refused. -/
  | octet (cause : OctetError) (text : String)
  deriving DecidableEq, Repr

/-- The wording of an octet error. -/
def OctetError.message : OctetError → String
  | .empty => "Empty octet not permitted"
  | .notDecimal text => "Only decimal digits permitted in " ++ quote text
  | .tooLong text => "At most 3 characters permitted in " ++ quote text
  | .leadingZero text => "Leading zeros are not permitted in " ++ quote text
  | .tooLarge value => s!"Octet {value} (> 255) not permitted"

/-- The wording of an address error. -/
def ParseError.message : ParseError → String
  | .slash text => "Unexpected '/' in " ++ quote text
  | .empty => "Address cannot be empty"
  | .octetCount text => "Expected 4 octets in " ++ quote text
  | .octet cause text => cause.message ++ " in " ++ quote text

/-- Reads an octet. -/
def parseOctet (s : List Char) : Except OctetError UInt8 :=
  if s.isEmpty then .error .empty
  else if !s.all isAsciiDigit then .error (.notDecimal (String.ofList s))
  else if s.length > 3 then .error (.tooLong (String.ofList s))
  else if s ≠ ['0'] ∧ s.head? = some '0' then .error (.leadingZero (String.ofList s))
  else
    let value := digitsToNat (s.map fun c ↦ c.toNat - '0'.toNat)
    if value > 255 then .error (.tooLarge value) else .ok (UInt8.ofNat value)

/-- Reads a dotted quad. -/
def parseChars (s : List Char) : Except ParseError IPv4 :=
  if '/' ∈ s then .error (.slash (String.ofList s))
  else if s.isEmpty then .error .empty
  else match fields (· == '.') s with
    | [a, b, c, d] =>
      (do return ⟨← parseOctet a, ← parseOctet b, ← parseOctet c, ← parseOctet d⟩ :
        Except OctetError IPv4).mapError (.octet · (String.ofList s))
    | _ => .error (.octetCount (String.ofList s))

/-- Reads a dotted quad. -/
def parse (text : String) : Except ParseError IPv4 :=
  parseChars text.toList

/-- The address that a text is the dotted quad of. -/
def parse? (text : String) : Option IPv4 :=
  (parse text).toOption

/-- Whether a text is a dotted quad. -/
def isLiteral (text : String) : Bool :=
  (parse? text).isSome

end IPv4

end SocksRouter
