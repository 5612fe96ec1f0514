import SocksRouter.Address.NetworkText
import SocksRouter.Country.Datum

/-!
# Records of an address database

A record is a table of sections: the continent, the country and so on, and for a database of cities
also the city and what lies around it. Each section is a table, or may be left out. Before the code
of the country is read off a record, all of its sections are looked at in a fixed order, and the
first that has not its shape makes the whole record unusable.

Some names are taken already where a section is read, and may not stand in it.
-/

namespace SocksRouter

/-- How much the records of a database tell. -/
inductive Detail
  /-- The country. -/
  | country
  /-- The country and the city. -/
  | city
  deriving DecidableEq, Repr

/-- The word for a record. -/
def Detail.subject : Detail → String
  | country => "Country"
  | city => "City"

/-- Why a lookup gives no answer. -/
inductive LookupError
  /-- The address holds a null character. -/
  | nullInAddress
  /-- The record is no table. -/
  | recordType (word : String)
  /-- A value of the record would stand in the place of what is known about the address. -/
  | settingTaken (detail : Detail) (key : String)
  /-- A name is taken where a table of this subject is read. -/
  | nameTaken (subject key : String)
  /-- A section is no table. -/
  | sectionType (subject word : String)
  /-- The properties of the address are no table, but something that nothing can be added to. -/
  | fixedTraits (word : String)
  /-- The properties of the address are a row, be it of bytes, whose places have no names. -/
  | numberedTraits (word : String)
  /-- The subdivisions are no row. -/
  | subdivisionsType (word : String)
  deriving DecidableEq, Repr

/-- The wording of a lookup error. -/
def LookupError.message : LookupError → String
  | .nullInAddress => "argument 1 contains an embedded null character"
  | .recordType word => s!"Expected record to be a dict but was f<class '{word}'>"
  | .settingTaken detail key =>
    s!"geoip2.models.{detail.subject}() got multiple values for keyword argument '{key}'"
  | .nameTaken subject key => s!"{subject}.__init__() got multiple values for argument '{key}'"
  | .sectionType subject word =>
    s!"geoip2.records.{subject}() argument after ** must be a mapping, not {word}"
  | .fixedTraits word => s!"'{word}' object does not support item assignment"
  | .numberedTraits word => s!"{word} indices must be integers or slices, not str"
  | .subdivisionsType word => s!"Value after * must be an iterable, not {word}"

namespace Record

/-- The entries of a record. -/
abbrev Entries := List (String × Datum)

/-- A section of a record. -/
structure Section where
  /-- Its name in a record. -/
  key : String
  /-- The word for what it describes. -/
  subject : String
  /-- The names that are taken in it. -/
  taken : List String
  deriving DecidableEq, Repr

/-- The names that are taken where something is described. -/
def takenNames : List String := ["self"]

/-- The names that are taken where a place is described, which has names in several languages. -/
def takenPlaceNames : List String := "locales" :: takenNames

/-- What is known about an address without its record. -/
def settings : List String := ["ip_address", "prefix_len"]

/-- The sections of every record. -/
def countrySections : List Section :=
  [⟨"continent", "Continent", takenPlaceNames⟩, ⟨"country", "Country", takenPlaceNames⟩,
    ⟨"registered_country", "Country", takenPlaceNames⟩,
    ⟨"represented_country", "RepresentedCountry", takenPlaceNames⟩,
    ⟨"maxmind", "MaxMind", takenNames⟩]

/-- The further sections of a record about a city. -/
def citySections : List Section :=
  [⟨"city", "City", takenPlaceNames⟩, ⟨"location", "Location", takenNames⟩,
    ⟨"postal", "Postal", takenNames⟩]

/-- The value of a name, if it counts as present. -/
def present? (key : String) (entries : Entries) : Option Datum :=
  (Datum.valueOf? key entries).filter Datum.isPresent

/-- Looks for a name that is taken. -/
def checkNames (subject : String) (taken : List String) (entries : Entries) :
    Except LookupError Unit :=
  match entries.find? fun entry ↦ taken.contains entry.1 with
  | some (key, _) => .error (.nameTaken subject key)
  | none => .ok ()

/-- Looks at a table of a subject. -/
def checkTable (subject : String) (taken : List String) : Datum → Except LookupError Unit
  | .table entries => checkNames subject taken entries
  | other => .error (.sectionType subject other.typeWord)

/-- Looks at a section of a record. -/
def checkSection (entries : Entries) (part : Section) : Except LookupError Unit :=
  match present? part.key entries with
  | none => .ok ()
  | some value => checkTable part.subject part.taken value

/-- Whether a value stands for a network. A whole number stands for its address, and no value for
the network that the record was found by. -/
def isNetwork : Datum → Bool
  | .nothing | .truth _ => true
  | .number n => 0 ≤ n && n < Nat.pow 2 128
  | .text s => NetworkText.isNetwork s.toList
  | _ => false

/-- Looks at the properties of the address, and tells whether their network is one. -/
def checkTraits (entries : Entries) : Except LookupError Bool :=
  match present? "traits" entries with
  | none => .ok true
  | some (.table traits) => do
    checkNames "Traits" takenNames traits
    return isNetwork ((Datum.valueOf? "network" traits).getD .nothing)
  | some items@(.row _) | some items@(.bytes _) => .error (.numberedTraits items.typeWord)
  | some other => .error (.fixedTraits other.typeWord)

/-- Looks at the subdivisions of the country. The letters of a text, the numbers of bytes and the
names of a table count as their items. -/
def checkSubdivisions (entries : Entries) : Except LookupError Unit :=
  let check := checkTable "Subdivision" takenPlaceNames
  match present? "subdivisions" entries with
  | none => .ok ()
  | some (.row items) => items.forM check
  | some (.text s) => check (.text s)
  | some (.bytes value) => value.forM fun byte ↦ check (.number byte.toNat)
  | some (.table entries) => entries.forM fun entry ↦ check (.text entry.1)
  | some other => .error (.subdivisionsType other.typeWord)

/-- Looks at a whole record, and tells whether the network it is about is one. -/
def check (detail : Detail) (entries : Entries) : Except LookupError Bool := do
  if let some (key, _) := entries.find? fun entry ↦ settings.contains entry.1 then
    throw (.settingTaken detail key)
  checkNames detail.subject takenPlaceNames entries
  countrySections.forM (checkSection entries)
  if !(← checkTraits entries) then return false
  if detail = .city then
    citySections.forM (checkSection entries)
    checkSubdivisions entries
  return true

/-- The country code in the sections of a record. -/
def code? (entries : Entries) : Option Datum :=
  match Datum.valueOf? "country" entries with
  | some (.table country) => present? "iso_code" country
  | _ => none

/-- The country code in a record, as it stands there. A record whose network is none has none. -/
def countryCode (detail : Detail) : Datum → Except LookupError (Option Datum)
  | .table entries => do
    if ← check detail entries then return code? entries else return none
  | other => .error (.recordType other.typeWord)

end Record

end SocksRouter
