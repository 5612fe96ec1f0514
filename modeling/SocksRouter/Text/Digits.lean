import SocksRouter.Text.Quoted
import SocksRouter.Text.Ranges

/-!
# Digits and decimal numbers

Two notions of digit. A *decimal digit* has a value from zero to nine and belongs to one of the
scripts' sets of ten; the wider class of *digits* also holds superscripts, subscripts and digits in
circles, which no number is written with. A text of digits in the wide sense can therefore fail to
be a number.

A number of more than 4300 digits is refused before it is read.
-/

namespace SocksRouter.Text

/-- The zeros of the sets of ten decimal digits. -/
def decimalZeros : List Nat :=
  [0x0030, 0x0660, 0x06F0, 0x07C0, 0x0966, 0x09E6, 0x0A66, 0x0AE6, 0x0B66, 0x0BE6, 0x0C66, 0x0CE6,
   0x0D66, 0x0DE6, 0x0E50, 0x0ED0, 0x0F20, 0x1040, 0x1090, 0x17E0, 0x1810, 0x1946, 0x19D0, 0x1A80,
   0x1A90, 0x1B50, 0x1BB0, 0x1C40, 0x1C50, 0xA620, 0xA8D0, 0xA900, 0xA9D0, 0xA9F0, 0xAA50, 0xABF0,
   0xFF10, 0x104A0, 0x10D30, 0x11066, 0x110F0, 0x11136, 0x111D0, 0x112F0, 0x11450, 0x114D0,
   0x11650, 0x116C0, 0x11730, 0x118E0, 0x11950, 0x11C50, 0x11D50, 0x11DA0, 0x16A60, 0x16AC0,
   0x16B50, 0x1D7CE, 0x1D7D8, 0x1D7E2, 0x1D7EC, 0x1D7F6, 0x1E140, 0x1E2F0, 0x1E950, 0x1FBF0]

/-- The digits that no number is written with. -/
def otherDigitRanges : List (Nat × Nat) :=
  [(0x00B2, 0x00B3), (0x00B9, 0x00B9), (0x1369, 0x1371), (0x19DA, 0x19DA), (0x2070, 0x2070),
   (0x2074, 0x2079), (0x2080, 0x2089), (0x2460, 0x2468), (0x2474, 0x247C), (0x2488, 0x2490),
   (0x24EA, 0x24EA), (0x24F5, 0x24FD), (0x24FF, 0x24FF), (0x2776, 0x277E), (0x2780, 0x2788),
   (0x278A, 0x2792), (0x10A40, 0x10A43), (0x10E60, 0x10E68), (0x11052, 0x1105A),
   (0x1F100, 0x1F10A)]

/-- The value of a decimal digit. -/
def decimalValue? (c : Char) : Option Nat :=
  (decimalZeros.find? fun z ↦ z ≤ c.toNat ∧ c.toNat < z + 10).map (c.toNat - ·)

/-- Whether the character is a digit in the wide sense. -/
def isDigit (c : Char) : Bool :=
  (decimalValue? c).isSome || inRanges otherDigitRanges c.toNat

/-- Whether the character is one of the ten digits of ASCII. -/
def isAsciiDigit (c : Char) : Bool :=
  '0' ≤ c ∧ c ≤ '9'

/-- Whether a text is a digit string in the wide sense: not empty, and all digits. -/
def isDigitString (s : List Char) : Bool :=
  !s.isEmpty && s.all isDigit

/-- Whether a text is a string of ASCII digits and not empty. -/
def isAsciiDigitString (s : List Char) : Bool :=
  !s.isEmpty && s.all isAsciiDigit

/-- The number that decimal digit values spell, most significant first. -/
def digitsToNat (values : List Nat) : Nat :=
  values.foldl (fun n d ↦ 10 * n + d) 0

/-- How many digits a number may have. -/
def maxDigits : Nat := 4300

/-- Why a text of digits is no number. -/
inductive NumberError
  /-- A digit in it is no decimal digit. -/
  | notDecimal (text : String)
  /-- There are too many digits. -/
  | tooLong (digits : Nat)
  deriving DecidableEq, Repr

/-- The wording of a number error. A text that is no number is shown quoted and cut after two
hundred characters. -/
def NumberError.message : NumberError → String
  | .notDecimal text =>
    s!"invalid literal for int() with base 10: " ++ String.ofList ((quote text).toList.take 200)
  | .tooLong digits =>
    s!"Exceeds the limit ({maxDigits} digits) for integer string conversion: value has {digits} " ++
      "digits; use sys.set_int_max_str_digits() to increase the limit"

/-- Reads a text of digits as a number. The length limit counts the decimal digits in front of the
first character that is none, and comes before the complaint about that character. -/
def readNumber (s : List Char) : Except NumberError Nat :=
  let leading := s.takeWhile fun c ↦ (decimalValue? c).isSome
  if leading.length > maxDigits then .error (.tooLong leading.length)
  else if leading.length < s.length ∨ s.isEmpty then .error (.notDecimal (String.ofList s))
  else .ok (digitsToNat (s.filterMap decimalValue?))

end SocksRouter.Text
