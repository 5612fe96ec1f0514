/-!
# Lines of a text

A line ends at a line feed, a carriage return, the pair of both, a vertical tab, a form feed, one of
the separators U+001C to U+001E, a next-line character, or a line or paragraph separator. The break
after the last line is optional, so a text that ends in a break has no empty last line.

`unifyBreaks` is what reading a file as text does to the bytes first: a carriage return, alone or
with the line feed after it, becomes one line feed.
-/

namespace SocksRouter.Text

/-- Whether a line ends at the character. -/
def isLineBreak (c : Char) : Bool :=
  c.toNat ∈ [0x0A, 0x0B, 0x0C, 0x0D, 0x1C, 0x1D, 0x1E, 0x85, 0x2028, 0x2029]

/-- The lines of `s` when the characters `line` (latest first) have already been read of the first
one. -/
def linesFrom (line : List Char) : List Char → List (List Char)
  | [] => if line.isEmpty then [] else [line.reverse]
  | '\r' :: '\n' :: rest => line.reverse :: linesFrom [] rest
  | c :: rest =>
    if isLineBreak c then line.reverse :: linesFrom [] rest else linesFrom (c :: line) rest

/-- The lines of a text, without their breaks. -/
def lines (s : List Char) : List (List Char) :=
  linesFrom [] s

/-- The text with every carriage return, and every pair of carriage return and line feed, turned
into one line feed. -/
def unifyBreaks : List Char → List Char
  | [] => []
  | '\r' :: '\n' :: rest => '\n' :: unifyBreaks rest
  | c :: rest => (if c = '\r' then '\n' else c) :: unifyBreaks rest

end SocksRouter.Text
