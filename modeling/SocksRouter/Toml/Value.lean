import SocksRouter.Text.Digits

/-!
# Values of a TOML document

A document is a table: named values in the order in which they came. `Value.insertAt` is how a table
grows: it follows a path of keys, makes tables where there are none, and goes into the last element
of an array of tables on the way.
-/

namespace SocksRouter.Toml

open Text

/-- A value of a document. -/
inductive Value
  /-- A text. -/
  | text (value : String)
  /-- A whole number. -/
  | whole (value : Int)
  /-- A number with a fraction or an exponent, as it was written but for its underscores. -/
  | decimal (written : List Char)
  /-- A truth value. -/
  | truth (value : Bool)
  /-- A date, a time, or both. The word tells which. -/
  | moment (word : String)
  /-- An array. -/
  | array (items : List Value)
  /-- A table. -/
  | table (entries : List (String × Value))
  deriving Repr

/-- A path of keys. -/
abbrev Key := List String

/-- The entries of a table. -/
abbrev Entries := List (String × Value)

namespace Value

/-- The word for the type of a value. -/
def typeWord : Value → String
  | text _ => "str"
  | whole _ => "int"
  | decimal _ => "float"
  | truth _ => "bool"
  | moment word => word
  | array _ => "list"
  | table _ => "dict"

/-- The number that the digits in a text spell. -/
def spelled (s : List Char) : Nat :=
  digitsToNat (s.filterMap decimalValue?)

/-- By how many places a number as it was written lies behind the number that its digits spell. -/
def placesBehind (coefficient power : List Char) : Int :=
  let places := ((coefficient.dropWhile (· ≠ '.')).drop 1).length
  if '-' ∈ power then places + spelled power else places - spelled power

/-- Whether a number as it was written counts as zero. It does when it is at most half of the least
number above zero that is told from it, which is two to the power of -1074. A coefficient without
digits is no number and not zero. -/
def isZero (written : List Char) : Bool :=
  let isMark (c : Char) : Bool := c = 'e' || c = 'E'
  let coefficient := written.takeWhile fun c ↦ !isMark c
  let power := written.dropWhile fun c ↦ !isMark c
  let digits := coefficient.filter isAsciiDigit
  let number := spelled digits
  if digits.isEmpty then false
  else if number = 0 then true
  else
    let places := (placesBehind coefficient power).toNat
    digits.length + 400 < places || number * Nat.pow 2 1075 ≤ Nat.pow 10 places

/-- Whether a value counts as present: it is neither empty, zero nor false. -/
def isPresent : Value → Bool
  | text value => !value.isEmpty
  | whole value => value != 0
  | decimal written => !isZero written
  | truth value => value
  | moment _ => true
  | array items => !items.isEmpty
  | table entries => !entries.isEmpty

/-- Whether a value is an array or a table. -/
def isNested : Value → Bool
  | array _ | table _ => true
  | _ => false

end Value

/-- Replaces the value of a key that the table has. -/
def replaceEntry (key : String) (value : Value) (entries : Entries) : Entries :=
  entries.map fun entry ↦ if entry.1 = key then (key, value) else entry

/-- Changes the table that a path leads to. Tables that are missing on the way are made; with
`intoArrays` the path goes into the last table of an array. There is no result where the path runs
into another value. -/
def insertAt (intoArrays : Bool) (change : Entries → Option Entries) :
    Key → Entries → Option Entries
  | [], entries => change entries
  | key :: rest, entries =>
    match entries.lookup key with
    | none =>
      (insertAt intoArrays change rest []).map fun inner ↦ entries ++ [(key, .table inner)]
    | some (.table inner) =>
      (insertAt intoArrays change rest inner).map fun inner ↦
        replaceEntry key (.table inner) entries
    | some (.array items) =>
      match intoArrays, items.getLast? with
      | true, some (.table inner) =>
        (insertAt intoArrays change rest inner).map fun inner ↦
          replaceEntry key (.array (items.dropLast ++ [.table inner])) entries
      | _, _ => none
    | some _ => none

/-- Adds an entry whose key the table does not have yet. -/
def addEntry (key : String) (value : Value) (entries : Entries) : Option Entries :=
  match entries.lookup key with
  | some _ => none
  | none => some (entries ++ [(key, value)])

/-- Adds an empty table to the array of a key, which is made if it is missing. -/
def addElement (key : String) (entries : Entries) : Option Entries :=
  match entries.lookup key with
  | none => some (entries ++ [(key, .array [.table []])])
  | some (.array items) => some (replaceEntry key (.array (items ++ [.table []])) entries)
  | some _ => none

end SocksRouter.Toml
