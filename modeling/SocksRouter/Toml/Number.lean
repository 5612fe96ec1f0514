import SocksRouter.Text.Digits
import SocksRouter.Text.Radix
import SocksRouter.Toml.Error
import SocksRouter.Toml.Quoted

/-!
# Numbers, dates and times of a TOML document

A number is whole, in base ten, two, eight or sixteen, or decimal with a fraction or an exponent;
single underscores may stand between its digits. A whole number in base ten may have no more than
4300 digits. A date is a year, a month and a day; a time, with
an offset or not, may stand behind it or alone.
-/

namespace SocksRouter.Toml

open Text

/-- A number in another base than ten, behind its zero. -/
def basedNumber? : List Char → Option (Value × List Char)
  | letter :: rest => do
    let base ← match letter with
      | 'x' => some 16
      | 'b' => some 2
      | 'o' => some 8
      | _ => none
    let (digits, after) ← groupedDigits? (isDigitOf base) rest
    return (.whole (ofDigits base digits), after)
  | [] => none

/-- The sign in front of a number. -/
def cutNumberSign : List Char → List Char × List Char
  | c :: rest => if c = '+' || c = '-' then ([c], rest) else ([], c :: rest)
  | [] => ([], [])

/-- The digits of a whole number in base ten: a zero, or digits that start with no zero. -/
def wholeDigits? : List Char → Option (List Char × List Char)
  | '0' :: rest => some (['0'], rest)
  | s => groupedDigits? isAsciiDigit s

/-- The fraction behind a whole number, as it was written, or nothing. -/
def fraction (s : List Char) : List Char × List Char :=
  match s with
  | '.' :: rest =>
    match groupedDigits? isAsciiDigit rest with
    | some (digits, after) => ('.' :: digits, after)
    | none => ([], s)
  | _ => ([], s)

/-- The exponent behind a number, as it was written, or nothing. -/
def exponent (s : List Char) : List Char × List Char :=
  match s with
  | c :: rest =>
    if c = 'e' || c = 'E' then
      let (sign, rest) := cutNumberSign rest
      match groupedDigits? isAsciiDigit rest with
      | some (digits, after) => (c :: sign ++ digits, after)
      | none => ([], s)
    else ([], s)
  | [] => ([], [])

/-- A number in base ten. -/
def decimalNumber? (s : List Char) : Option (Scanned Value) := do
  let (sign, rest) := cutNumberSign s
  let (digits, rest) ← wholeDigits? rest
  let (part, rest) := fraction rest
  let (power, rest) := exponent rest
  if !(part.isEmpty && power.isEmpty) then
    return .ok (.decimal (sign ++ digits ++ part ++ power), rest)
  else if maxDigits < digits.length then
    return fail (.tooLong digits.length) s
  else
    let n : Int := ofDigits 10 digits
    return .ok (.whole (if sign = ['-'] then -n else n), rest)

/-- The numbers that are none. -/
def specialNumbers : List String :=
  ["inf", "nan", "-inf", "+inf", "-nan", "+nan"]

/-- A number that is none. -/
def specialNumber? (s : List Char) : Option (Value × List Char) := do
  let word ← specialNumbers.find? fun word ↦ word.toList.isPrefixOf s
  return (.decimal word.toList, s.drop word.length)

/-- A number, if one starts here. -/
def number? (s : List Char) : Option (Scanned Value) :=
  let based := match s with
    | '0' :: rest => basedNumber? rest
    | _ => none
  ((based.map .ok).or (decimalNumber? s)).or ((specialNumber? s).map .ok)

/-! ### Dates and times -/

/-- Exactly `count` ASCII digits, as a number. -/
def fixedNumber? (count : Nat) (s : List Char) : Option (Nat × List Char) :=
  let digits := s.take count
  if digits.length = count ∧ digits.all isAsciiDigit then some (ofDigits 10 digits, s.drop count)
  else none

/-- A number of two digits from `low` to `high`. -/
def twoDigits? (low high : Nat) (s : List Char) : Option (Nat × List Char) := do
  let (n, rest) ← fixedNumber? 2 s
  if low ≤ n ∧ n ≤ high then return (n, rest) else none

/-- What follows a character, if it comes first. -/
def behind? (c : Char) : List Char → Option (List Char)
  | d :: rest => if c = d then some rest else none
  | [] => none

/-- The characters behind a time, if one starts here. -/
def time? (s : List Char) : Option (List Char) := do
  let (_, s) ← twoDigits? 0 23 s
  let s ← behind? ':' s
  let (_, s) ← twoDigits? 0 59 s
  let s ← behind? ':' s
  let (_, s) ← twoDigits? 0 59 s
  match behind? '.' s with
  | some after =>
    let rest := after.dropWhile isAsciiDigit
    return if rest.length < after.length then rest else s
  | none => return s

/-- The characters behind an offset, if one starts here. -/
def offset? (s : List Char) : Option (List Char) :=
  match s with
  | 'Z' :: rest | 'z' :: rest => some rest
  | '+' :: rest | '-' :: rest => do
    let (_, rest) ← twoDigits? 0 23 rest
    let rest ← behind? ':' rest
    let (_, rest) ← twoDigits? 0 59 rest
    return rest
  | _ => none

/-- The date that starts here: its year, month and day. -/
def date? (s : List Char) : Option ((Nat × Nat × Nat) × List Char) := do
  let (year, s) ← fixedNumber? 4 s
  let s ← behind? '-' s
  let (month, s) ← twoDigits? 1 12 s
  let s ← behind? '-' s
  let (day, s) ← twoDigits? 1 31 s
  return ((year, month, day), s)

/-- Whether a year has a leap day. -/
def isLeap (year : Nat) : Bool :=
  year % 4 = 0 && (year % 100 ≠ 0 || year % 400 = 0)

/-- How many days a month has. -/
def daysIn (year month : Nat) : Nat :=
  if month = 2 then (if isLeap year then 29 else 28)
  else if month ∈ [4, 6, 9, 11] then 30
  else 31

/-- The time behind a date, with its offset. -/
def timeBehind? (s : List Char) : Option (List Char) :=
  match s with
  | c :: rest =>
    if c = 'T' || c = 't' || c = ' ' then
      (time? rest).map fun after ↦ (offset? after).getD after
    else none
  | [] => none

/-- A date or a time, if one starts here. -/
def moment? (s : List Char) : Option (Scanned Value) :=
  match date? s with
  | some ((year, month, day), after) =>
    some <|
      if year = 0 ∨ daysIn year month < day then fail .invalidMoment s
      else match timeBehind? after with
        | some after => .ok (.moment "datetime.datetime", after)
        | none => .ok (.moment "datetime.date", after)
  | none => (time? s).map fun after ↦ .ok (.moment "datetime.time", after)

end SocksRouter.Toml
