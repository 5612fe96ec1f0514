import SocksRouter.Text.Quoted

/-!
# Data of an address database

The records of an address database are trees of named values. Only one value of a record matters
here, the code of its country, but a record may hold anything in its place.
-/

namespace SocksRouter

open Text

/-- A value of a database record. -/
inductive Datum
  /-- No value. -/
  | nothing
  /-- A truth value. -/
  | truth (value : Bool)
  /-- A whole number. -/
  | number (value : Int)
  /-- A decimal number, given as its digits and the count of those behind the point. -/
  | decimal (digits : Int) (places : Nat)
  /-- What stands for a decimal number without being one: an infinity, or the mark that there is
  none. -/
  | noDecimal
  /-- A text. -/
  | text (value : String)
  /-- Bytes. -/
  | bytes (value : List UInt8)
  /-- A row of values. -/
  | row (items : List Datum)
  /-- Named values, in order. -/
  | table (entries : List (String × Datum))
  deriving Repr

namespace Datum

/-- The word for the type of a value. -/
def typeWord : Datum → String
  | nothing => "NoneType"
  | truth _ => "bool"
  | number _ => "int"
  | decimal .. | noDecimal => "float"
  | text _ => "str"
  | bytes _ => "bytearray"
  | row _ => "list"
  | table _ => "dict"

/-- Whether a value counts as present: it is neither empty, zero nor false. -/
def isPresent : Datum → Bool
  | nothing => false
  | truth value => value
  | number value => value != 0
  | decimal digits _ => digits != 0
  | noDecimal => true
  | text value => !value.isEmpty
  | bytes value => !value.isEmpty
  | row items => !items.isEmpty
  | table entries => !entries.isEmpty

/-- Whether a value can be put in lower case. Bytes can, like a text. -/
def hasLower : Datum → Bool
  | text _ | bytes _ => true
  | _ => false

/-- The value of the last entry with a name. -/
def valueOf? (name : String) : List (String × Datum) → Option Datum
  | [] => none
  | (key, value) :: rest => (valueOf? name rest).or (if key = name then some value else none)

end Datum

end SocksRouter
