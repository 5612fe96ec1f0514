import SocksRouter.Text.Ranges

/-!
# Blank characters

The blank characters are the white space of the standard together with the four information
separators U+001C to U+001F. A rule file, a rule line and a proxy address are read after their
blanks at both ends have been dropped.

`strip` drops them; `IsTrimmed` says what the result looks like.
-/

namespace SocksRouter.Text

/-- The blank code points. -/
def blankRanges : List (Nat × Nat) :=
  [(0x0009, 0x000D), (0x001C, 0x0020), (0x0085, 0x0085), (0x00A0, 0x00A0), (0x1680, 0x1680),
   (0x2000, 0x200A), (0x2028, 0x2029), (0x202F, 0x202F), (0x205F, 0x205F), (0x3000, 0x3000)]

/-- Whether a character is blank. -/
def isBlank (c : Char) : Bool :=
  inRanges blankRanges c.toNat

/-- The text without the blanks it ends in. -/
def stripEnd (s : List Char) : List Char :=
  (s.reverse.dropWhile isBlank).reverse

/-- The text without the blanks at its two ends. -/
def strip (s : List Char) : List Char :=
  stripEnd (s.dropWhile isBlank)

/-- A text that neither starts nor ends with a blank. -/
def IsTrimmed (s : List Char) : Prop :=
  (∀ c ∈ s.head?, isBlank c = false) ∧ ∀ c ∈ s.getLast?, isBlank c = false

/-- The words of a text: its longest stretches without a blank. -/
def words (s : List Char) : List (List Char) :=
  (s.splitBy fun a b ↦ isBlank a == isBlank b).filter fun w ↦ !w.all isBlank

end SocksRouter.Text
