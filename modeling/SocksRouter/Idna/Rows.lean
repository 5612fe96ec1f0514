import Std.Data.HashMap

/-!
# Data rows

The larger tables are kept as text: a row is some hexadecimal numbers between blanks, and every row
ends in a semicolon. Line breaks between rows are not significant.
-/

namespace SocksRouter.Idna

/-- The value of a hexadecimal digit of a row. -/
def rowDigit (c : Char) : Nat :=
  if c ≤ '9' then c.toNat - '0'.toNat else c.toNat - 'A'.toNat + 10

/-- What has been read of a text of rows: the rows, the numbers of the open row, and the open
number. The latest come first. -/
structure RowReading where
  /-- The finished rows. -/
  rows : List (List Nat) := []
  /-- The finished numbers of the open row. -/
  numbers : List Nat := []
  /-- The number that is being read. -/
  current : Nat := 0

/-- What a character does to the reading. -/
def RowReading.step (reading : RowReading) (c : Char) : RowReading :=
  if c = ';' then
    { rows := (reading.current :: reading.numbers).reverse :: reading.rows }
  else if c = ' ' then
    { reading with numbers := reading.current :: reading.numbers, current := 0 }
  else if c = '\n' then reading
  else { reading with current := 16 * reading.current + rowDigit c }

/-- The rows of a text, first to last. -/
def readRows (text : String) : List (List Nat) :=
  (text.toList.foldl RowReading.step {}).rows.reverse

/-- The rows of a text by their first number. -/
def indexRows (text : String) : Std.HashMap Nat (List Nat) :=
  (readRows text).foldl
    (fun index row ↦ match row with
      | [] => index
      | key :: value => index.insert key value) ∅

end SocksRouter.Idna
