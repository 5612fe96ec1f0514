import SocksRouter.Address.IPv4
import SocksRouter.Text.Radix

/-!
# Numeric addresses of both families

What an address database accepts as an address. Besides the strict dotted quad it takes the older
spellings of an IPv4 address: one to four numbers, each decimal, octal (leading zero) or hexadecimal
(`0x`), where the last number fills all the octets that are left. An IPv6 address is up to eight
groups of hexadecimal digits, a run of zero groups may be written as `::`, the last two groups may
be written as a dotted quad, and a zone may follow a percent sign.
-/

namespace SocksRouter

open Text

/-- An address of either family, as a number. -/
inductive NumericAddress
  /-- An IPv4 address. -/
  | four (value : Nat)
  /-- An IPv6 address. -/
  | six (value : Nat)
  deriving DecidableEq, Repr

namespace NumericAddress

/-- Reads a whole text as a number in a base, which has at least one digit. -/
def readBase? (base : Nat) (s : List Char) : Option Nat :=
  if s.isEmpty then none
  else s.foldlM (fun n c ↦ do
    let d ← hexValue? c
    if d < base then some (base * n + d) else none) 0

/-- Reads a number that tells its base by how it starts. -/
def readTagged? : List Char → Option Nat
  | '0' :: 'x' :: rest => readBase? 16 rest
  | '0' :: 'X' :: rest => readBase? 16 rest
  | '0' :: rest => if rest.isEmpty then some 0 else readBase? 8 rest
  | s => readBase? 10 s

/-- The value of one to four parts, the last of which fills the octets that are left. -/
def ofParts? (filled : Nat) (acc : Nat) : List Nat → Option Nat
  | [] => none
  | [last] =>
    let room := Nat.pow 256 (4 - filled)
    if last < room then some (acc * room + last) else none
  | part :: rest =>
    if part ≤ 255 ∧ filled < 3 then ofParts? (filled + 1) (acc * 256 + part) rest else none

/-- Reads an IPv4 address in any of its spellings. -/
def four? (s : List Char) : Option Nat := do
  let parts ← (fields (· == '.') s).mapM readTagged?
  ofParts? 0 0 parts

/-- Reads a group of an IPv6 address. -/
def group? (s : List Char) : Option Nat :=
  if s.length ≤ 4 then readBase? 16 s else none

/-- Reads a row of groups between colons; only the last one may be a dotted quad. -/
def groups? : List (List Char) → Option (List Nat)
  | [] => some []
  | [last] =>
    match IPv4.parseChars last with
    | .ok ip => some [ip.toNat / 65536, ip.toNat % 65536]
    | .error _ => (group? last).map ([·])
  | s :: rest => do return (← group? s) :: (← groups? rest)

/-- Reads a possibly empty row of groups. -/
def row? (s : List Char) : Option (List Nat) :=
  if s.isEmpty then some [] else groups? (fields (· == ':') s)

/-- What stands before and after the first double colon. -/
def cutGap : List Char → Option (List Char × List Char)
  | [] => none
  | ':' :: ':' :: rest => some ([], rest)
  | c :: rest => (cutGap rest).map fun (before, after) ↦ (c :: before, after)

/-- The number that eight groups make. -/
def ofGroups (groups : List Nat) : Nat :=
  groups.foldl (fun n g ↦ 65536 * n + g) 0

/-- Reads an IPv6 address without a zone. -/
def six? (s : List Char) : Option Nat :=
  match cutGap s with
  | none => do
    let groups ← row? s
    if groups.length = 8 then some (ofGroups groups) else none
  | some (before, after) => do
    let front ← if '.' ∈ before then none else row? before
    let back ← row? after
    let missing := 8 - (front.length + back.length)
    if missing = 0 then none else some (ofGroups (front ++ List.replicate missing 0 ++ back))

/-- Whether an IPv6 address belongs to a single link: it starts with the ten bits for that, or it is
the address of a group of hosts on a link or an interface. -/
def isLinkLocal (value : Nat) : Bool :=
  value / Nat.pow 2 118 == 0x3FA ||
    (value / Nat.pow 2 120 == 0xFF && (value / Nat.pow 2 112 % 16 == 1 ||
      value / Nat.pow 2 112 % 16 == 2))

/-- Whether a text is a zone of an address: a number, or for the addresses of a single link the name
of an interface, of which every host has `lo`. -/
def isZone (value : Nat) (s : List Char) : Bool :=
  (isAsciiDigitString s && digitsToNat (s.filterMap decimalValue?) < 0x100000000) ||
    (isLinkLocal value && s == "lo".toList)

/-- Reads an address of either family. -/
def parse? (text : String) : Option NumericAddress :=
  match four? text.toList with
  | some n => some (.four n)
  | none =>
    match cutFirst '%' text.toList with
    | none => (six? text.toList).map .six
    | some (address, zone) => ((six? address).filter fun value ↦ isZone value zone).map .six

end NumericAddress

end SocksRouter
