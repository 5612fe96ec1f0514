import SocksRouter.Address.Block
import SocksRouter.Address.Numeric

/-!
# Networks as they are written

A network is written as an address, which may be followed by a slash and the number of bits that its
addresses share. The bits of the address behind those do not matter. For version 4 a mask may stand
in the place of the number, or a mask with all its bits turned over. The address is a strict dotted
quad, or an IPv6 address with or without a zone of any name.
-/

namespace SocksRouter.NetworkText

open Text

/-- Whether a text is a number of bits, of which an address has `most`. -/
def isBitCount (most : Nat) (s : List Char) : Bool :=
  isAsciiDigitString s &&
    match readNumber s with
    | .ok n => n ≤ most
    | .error _ => false

/-- Whether a number is a mask, or a mask with all its bits turned over. -/
def isMask (value : Nat) : Bool :=
  (List.range (addressBits + 1)).any fun bits ↦
    value == Block.maskOf bits || value == allOnes - Block.maskOf bits

/-- Whether a text may stand behind an address of version 4 and a slash. -/
def isExtent (s : List Char) : Bool :=
  isBitCount addressBits s ||
    match IPv4.parseChars s with
    | .ok mask => isMask mask.toNat
    | .error _ => false

/-- Whether a text is an IPv6 address. -/
def isSix (s : List Char) : Bool :=
  match cutFirst '%' s with
  | none => (NumericAddress.six? s).isSome
  | some (address, zone) =>
    (NumericAddress.six? address).isSome && !zone.isEmpty && '%' ∉ zone

/-- Whether a text is a network. -/
def isNetwork (s : List Char) : Bool :=
  match cutFirst '/' s with
  | none => (IPv4.parseChars s).toBool || isSix s
  | some (address, extent) =>
    ((IPv4.parseChars address).toBool && isExtent extent) ||
      (isSix address && isBitCount 128 extent)

end SocksRouter.NetworkText
