import SocksRouter.Country.Record
import SocksRouter.Failure

/-!
# Country database

A country database maps networks to records. An address belongs to the record of the longest network
that contains it; of two entries for one network the later one counts. In a database for version 6
the IPv4 networks are those of `::/96`; a database for version 4 knows no IPv6 address.

`Database.record?` is the lookup of a record, and `Database.country` reads the country code off it.
-/

namespace SocksRouter

/-- A network: a number of `bits` bits, of which the first `length` are fixed. -/
structure Network where
  /-- An address of the network, as a number. -/
  address : Nat
  /-- How many bits an address has. -/
  bits : Nat
  /-- How many of them are fixed. -/
  length : Nat
  deriving DecidableEq, Repr

namespace Network

/-- How many addresses the network has. -/
def size (network : Network) : Nat :=
  Nat.pow 2 (network.bits - network.length)

/-- Whether the network contains an address, given as a number of the same width. -/
def contains (network : Network) (address : Nat) : Bool :=
  address / network.size == network.address / network.size

/-- Reads a network; without a slash it is a single address. -/
def parse? (text : String) : Option Network := do
  let (address, length) ← match Text.cutFirst '/' text.toList with
    | none => some (text, none)
    | some (before, after) =>
      match Text.readNumber after with
      | .ok n => some (String.ofList before, some n)
      | .error _ => none
  match ← NumericAddress.parse? address with
  | .four value => return ⟨value, 32, length.getD 32⟩
  | .six value => return ⟨value, 128, length.getD 128⟩

/-- The network in the address space of version 6. -/
def widen (network : Network) : Network :=
  if network.bits = 32 then ⟨network.address, 128, network.length + 96⟩ else network

end Network

/-- The versions of address that a database may be made for. -/
inductive AddressVersion
  /-- IPv4 only. -/
  | four
  /-- Both, the IPv4 addresses inside `::/96`. -/
  | six
  deriving DecidableEq, Repr

/-- A database of countries by network. -/
structure Database where
  /-- The name that the database gives to its contents. -/
  type : String := "GeoLite2-Country"
  /-- The addresses it is made for. -/
  version : AddressVersion := .six
  /-- The records of its networks, later entries above earlier ones. -/
  networks : List (Network × Datum) := []
  deriving Repr

namespace Database

/-- Whether a database says that it is about something. -/
def isAbout (database : Database) (subject : String) : Bool :=
  Text.occursIn subject.toList database.type.toList

/-- How much the records of a database tell. -/
def detail (database : Database) : Detail :=
  if database.isAbout "City" then .city else .country

/-- The address as the database counts it, if it can hold it. -/
def position? (database : Database) : NumericAddress → Option Nat
  | .four value => some value
  | .six value => if database.version = .six then some value else none

/-- A network as the database holds it. -/
def placed (database : Database) (network : Network) : Network :=
  if database.version = .six then network.widen else network

/-- Of two entries, the one for the longer network; the later one where they are equal. -/
def better (earlier later : Network × Datum) : Network × Datum :=
  if earlier.1.length ≤ later.1.length then later else earlier

/-- The entries of the networks that contain an address. -/
def candidates (database : Database) (address : Nat) : List (Network × Datum) :=
  (database.networks.map fun (network, record) ↦ (database.placed network, record)).filter
    fun entry ↦ entry.1.contains address

/-- The entry of the longest network that contains an address. -/
def best? (database : Database) (address : Nat) : Option (Network × Datum) :=
  (database.candidates address).foldl
    (fun found entry ↦ some (match found with
      | none => entry
      | some earlier => better earlier entry)) none

/-- The record of an address. An address that is none, or that the database cannot hold, has
none. -/
def record? (database : Database) (address : String) : Option Datum := do
  let numeric ← NumericAddress.parse? address
  let position ← database.position? numeric
  let entry ← database.best? position
  return entry.2

/-- The country code of an address, if it has one. -/
def country (database : Database) (address : String) : Except LookupError (Option Datum) :=
  if address.isEmpty then .ok none
  else if '\x00' ∈ address.toList then .error .nullInAddress
  else match database.record? address with
    | none => .ok none
    | some record => Record.countryCode database.detail record

end Database

end SocksRouter
