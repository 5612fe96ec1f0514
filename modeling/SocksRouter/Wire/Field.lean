/-!
# Numbers on the wire

Numbers are sent in one or two bytes, most significant byte first. A number that does not fit is
refused; which refusal it is depends on whether the number fits a machine word.
-/

namespace SocksRouter

/-- Bytes in the order in which they are sent. -/
abbrev Bytes := List UInt8

/-- Why a number cannot be sent. -/
inductive FieldError
  /-- It does not fit one byte. -/
  | byteRange
  /-- It does not fit two bytes. -/
  | shortRange
  /-- It does not even fit a machine word of the right sign. -/
  | wordRange
  deriving DecidableEq, Repr

/-- The wording of a field error. -/
def FieldError.message : FieldError → String
  | .byteRange => "ubyte format requires 0 <= number <= 255"
  | .shortRange => "'H' format requires 0 <= number <= 65535"
  | .wordRange => "argument out of range"

/-- Half the number of values that a machine word has. -/
def halfWord : Int := 0x8000000000000000

/-- A number in one byte. -/
def byteField (n : Int) : Except FieldError Bytes :=
  if n < -halfWord ∨ halfWord ≤ n then .error .wordRange
  else if n < 0 ∨ 255 < n then .error .byteRange
  else .ok [UInt8.ofNat n.toNat]

/-- The two bytes of a number below 65536. -/
def shortBytes (n : Nat) : Bytes :=
  [UInt8.ofNat (n / 256), UInt8.ofNat (n % 256)]

/-- A number in two bytes. -/
def shortField (n : Int) : Except FieldError Bytes :=
  if n < 0 ∨ 2 * halfWord ≤ n then .error .wordRange
  else if 65535 < n then .error .shortRange
  else .ok (shortBytes n.toNat)

/-- The number that two bytes spell. -/
def shortValue (high low : UInt8) : Nat :=
  256 * high.toNat + low.toNat

end SocksRouter
