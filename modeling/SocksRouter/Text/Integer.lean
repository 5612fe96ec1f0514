import SocksRouter.Text.Blank
import SocksRouter.Text.Digits
import SocksRouter.Text.Fields

/-!
# Whole numbers

A whole number as a user writes it: white space around it, a plus sign in front, zeros in front, a
fraction of nothing but zeros, and single underscores between digits. What is left when all that has
been taken away is a *plain* number: ASCII digits that start with no needless zero, behind a minus
sign if it is negative.
-/

namespace SocksRouter.Text

/-- Whether a character is white space: a blank that is no information separator. -/
def isWhiteSpace (c : Char) : Bool :=
  isBlank c && !(0x1C ≤ c.toNat && c.toNat ≤ 0x1F)

/-- A number without the plus sign in front; there is none where a minus sign follows it. -/
def dropPlus? : List Char → Option (List Char)
  | '+' :: '-' :: _ => none
  | '+' :: rest => some rest
  | s => some s

/-- Whether a number that starts like this needs no zero in front. -/
def startsPlain (c : Char) : Bool :=
  ('1' ≤ c && c ≤ '9') || c = '-'

/-- A number behind zeros and underscores, of which `last` is the latest. It stays in front of a
point and where nothing follows. -/
def behindZeros? (last : Char) : List Char → Option (List Char)
  | [] => some [last]
  | c :: rest =>
    if c = '0' || c = '_' then behindZeros? c rest
    else if startsPlain c then some (c :: rest)
    else if c = '.' then some (last :: c :: rest)
    else none

/-- A number without needless zeros in front. -/
def dropZeros? : List Char → Option (List Char)
  | [] => none
  | c :: rest =>
    if c = '0' then behindZeros? c rest
    else if startsPlain c then some (c :: rest)
    else none

/-- A number without a fraction of nothing but zeros. -/
def dropFraction (s : List Char) : List Char :=
  match cutFirst '.' s with
  | some (whole, places) => if !places.isEmpty && places.all (· = '0') then whole else s
  | none => s

/-- A number without the single underscores between its characters. -/
def ungroup? (s : List Char) : Option (List Char) :=
  let groups := fields (· == '_') s
  if groups.any List.isEmpty then none else some groups.flatten

/-- Reads a plain number without a sign. -/
def readPlainNumber? (s : List Char) : Option Nat :=
  if isAsciiDigitString s && (s.head? ≠ some '0' || s.length = 1) then (readNumber s).toOption
  else none

/-- Reads a plain number. -/
def readPlainInteger? : List Char → Option Int
  | '-' :: digits => (readPlainNumber? digits).map fun n ↦ -n
  | digits => (readPlainNumber? digits).map fun n ↦ n

/-- Reads a whole number. -/
def readInteger? (s : List Char) : Option Int := do
  let s ← dropPlus? (stripOf isWhiteSpace s)
  let s ← dropZeros? s
  let s ← ungroup? (dropFraction s)
  readPlainInteger? s

end SocksRouter.Text
