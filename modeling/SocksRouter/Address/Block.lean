import SocksRouter.Address.IPv4

/-!
# Address blocks

A block is written `a.b.c.d/n`: the addresses whose first `n` bits are those of the base. Bits of
the base behind the first `n` are ignored. The number of bits is a string of ASCII digits, leading
zeros allowed, of value at most 32.

Membership is decided by a mask; `InBlock` says what it means: the blocks of one length cut the
address space into stretches of equal size, and two addresses share a block exactly when they lie in
the same stretch.
-/

namespace SocksRouter

open Text

/-- How many bits an address has. -/
def addressBits : Nat := 32

/-- The address with all bits set, as a number. -/
def allOnes : Nat := Nat.pow 2 addressBits - 1

/-- A block of addresses: its first address and the mask of the bits that its addresses share. -/
structure Block where
  /-- The first address of the block. -/
  network : Nat
  /-- The bits that all addresses of the block have in common. -/
  mask : Nat
  deriving DecidableEq, Repr

namespace Block

/-- What is wrong with the text of a block. -/
inductive ParseError
  /-- There is no slash, or no string of ASCII digits behind the first one. -/
  | malformed (text : String)
  /-- The number of bits has too many digits to be read. -/
  | bits (cause : NumberError)
  /-- The number of bits is above 32. -/
  | tooManyBits (text : String)
  /-- The base is no address. -/
  | base (cause : IPv4.ParseError)
  deriving DecidableEq, Repr

/-- The wording of a block error. -/
def ParseError.message : ParseError → String
  | .malformed text => "Invalid CIDR " ++ quote text
  | .bits cause => cause.message
  | .tooManyBits text => "Invalid prefix length in " ++ quote text
  | .base cause => cause.message

/-- The mask of the first `bits` bits. -/
def maskOf (bits : Nat) : Nat :=
  (allOnes <<< (addressBits - bits)) &&& allOnes

/-- The block of the first `bits` bits around an address. -/
def around (base : IPv4) (bits : Nat) : Block :=
  ⟨base.toNat &&& maskOf bits, maskOf bits⟩

/-- Reads a block. The number of bits is looked at before the base. -/
def parse (text : String) : Except ParseError Block :=
  match cutFirst '/' text.toList with
  | none => .error (.malformed text)
  | some (base, bits) =>
    if !isAsciiDigitString bits then .error (.malformed text)
    else match readNumber bits with
      | .error cause => .error (.bits cause)
      | .ok n =>
        if n > addressBits then .error (.tooManyBits text)
        else match IPv4.parseChars base with
          | .error cause => .error (.base cause)
          | .ok ip => .ok (around ip n)

/-- Whether an address belongs to the block. -/
def contains (block : Block) (ip : IPv4) : Bool :=
  ip.toNat &&& block.mask == block.network

/-- Whether the address written `ip` belongs to the block written `cidr`. The block is read
first. -/
def matchText (ip cidr : String) : Except ParseError Bool :=
  match parse cidr with
  | .error e => .error e
  | .ok block =>
    match IPv4.parse ip with
    | .error cause => .error (.base cause)
    | .ok address => .ok (block.contains address)

/-- How many addresses a block of the given number of bits has. -/
def size (bits : Nat) : Nat :=
  Nat.pow 2 (addressBits - bits)

/-- The first address of the block of the given number of bits around `base`. -/
def start (base bits : Nat) : Nat :=
  size bits * (base / size bits)

/-- The address `x` lies in the block of the given number of bits around `base`. -/
def InBlock (base bits x : Nat) : Prop :=
  start base bits ≤ x ∧ x < start base bits + size bits

instance (base bits x : Nat) : Decidable (InBlock base bits x) :=
  inferInstanceAs (Decidable (_ ∧ _))

end Block

end SocksRouter
