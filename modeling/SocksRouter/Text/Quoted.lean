import SocksRouter.Text.Printable

/-!
# Quoted text

How a message shows a text it was given. The text stands between single quotes, or between double
quotes when it holds a single quote and no double quote. The quote in use and the backslash are
escaped by a backslash; tab, line feed and carriage return have letters of their own; any other
character that is not printable is written by its code point in two, four or eight hexadecimal
digits. Bytes are shown in the same way behind a `b`, with every byte outside of printable ASCII in
two hexadecimal digits.
-/

namespace SocksRouter.Text

/-- A hexadecimal digit, in lower case. -/
def hexDigit (n : Nat) : Char :=
  (Nat.digitChar (n % 16))

/-- The last `width` hexadecimal digits of a number. -/
def hexDigits : Nat → Nat → List Char
  | 0, _ => []
  | width + 1, n => hexDigits width (n / 16) ++ [hexDigit n]

/-- How a character is written between the given quotes. -/
def quotedChar (mark : Char) (c : Char) : List Char :=
  if c = mark ∨ c = '\\' then ['\\', c]
  else if c = '\t' then ['\\', 't']
  else if c = '\n' then ['\\', 'n']
  else if c = '\r' then ['\\', 'r']
  else if isPrintable c then [c]
  else if c.toNat < 0x100 then '\\' :: 'x' :: hexDigits 2 c.toNat
  else if c.toNat < 0x10000 then '\\' :: 'u' :: hexDigits 4 c.toNat
  else '\\' :: 'U' :: hexDigits 8 c.toNat

/-- The quotes that a text is shown between. -/
def quoteMark (s : List Char) : Char :=
  if '\'' ∈ s ∧ '"' ∉ s then '"' else '\''

/-- A text as a message shows it. -/
def quote (s : String) : String :=
  let mark := quoteMark s.toList
  String.ofList (mark :: s.toList.flatMap (quotedChar mark) ++ [mark])

/-- How a byte is written between the given quotes. -/
def quotedByte (mark : Char) (b : UInt8) : List Char :=
  if b < 0x7F then quotedChar mark (Char.ofNat b.toNat)
  else '\\' :: 'x' :: hexDigits 2 b.toNat

/-- Bytes as a message shows them. -/
def quoteBytes (bytes : List UInt8) : String :=
  let mark := quoteMark (bytes.map fun b ↦ Char.ofNat b.toNat)
  String.ofList ('b' :: mark :: bytes.flatMap (quotedByte mark) ++ [mark])

/-- Parts in parentheses; a single one is followed by a comma. -/
def rowText : List String → String
  | [part] => "(" ++ part ++ ",)"
  | parts => "(" ++ ", ".intercalate parts ++ ")"

/-- A row of texts as a message shows it. -/
def quoteRow (row : List String) : String :=
  rowText (row.map quote)

end SocksRouter.Text
