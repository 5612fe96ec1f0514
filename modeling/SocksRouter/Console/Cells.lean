import SocksRouter.Console.Cells.Table

/-!
# Cells

A console is a grid of cells, and a character takes none, one or two of them. Some characters are
drawn together with others. A joiner makes one picture of the characters before and behind it, so
the one behind it takes no cells of its own. A picture mark asks for the picture of the character
before it, which may take one cell more than the character alone.

`cells` is the width of a text, and `glyphs` cuts a text into the parts that are drawn together.
`crop` cuts a text to a width; a part of two cells that would be cut in half gives way to a blank.
-/

namespace SocksRouter.Console

open Text

/-- The character that joins those around it. -/
def joiner : Char := '\u200D'

/-- The character that asks for the picture of the one before it. -/
def pictureMark : Char := '\uFE0F'

/-- How many cells a character takes. -/
def charCells (c : Char) : Nat :=
  if inRanges zeroCellRanges c.toNat then 0
  else if inRanges twoCellRanges c.toNat then 2
  else 1

/-- Whether a character takes one cell more as a picture. -/
def widens (c : Char) : Bool :=
  inRanges pictureRanges c.toNat

/-- The sum of widths. -/
def totalWidth (widths : List Nat) : Nat :=
  widths.foldr (· + ·) 0

/-- How many cells a text takes behind the character `base`, if that can still become a picture.
With `joined` the first character takes no cell. -/
def cellsFrom (joined : Bool) (base : Option Char) : List Char → Nat
  | [] => 0
  | c :: rest =>
    if joined then cellsFrom false base rest
    else if c = joiner then cellsFrom true base rest
    else if c = pictureMark then (base.any widens).toNat + cellsFrom false none rest
    else if charCells c = 0 then cellsFrom false base rest
    else charCells c + cellsFrom false (some c) rest

/-- How many cells a text takes. -/
def cells (s : List Char) : Nat :=
  cellsFrom false none s

/-! ### Glyphs -/

/-- Characters that are drawn together. -/
structure Glyph where
  /-- The characters. -/
  content : List Char
  /-- How many cells they take. -/
  width : Nat
  deriving DecidableEq, Repr

/-- The glyph with a further character, and with more cells. -/
def Glyph.add (glyph : Glyph) (c : Char) (more : Nat := 0) : Glyph :=
  ⟨glyph.content ++ [c], glyph.width + more⟩

/-- The base that a character leaves for a picture mark behind it. -/
def baseAfter (base : Option Char) (c : Char) : Option Char :=
  if charCells c = 0 then base else some c

/-- The glyphs of a text behind `glyph`, which is still open. With `joined` the first character
belongs to it, and `base` is what a picture mark would change. -/
def glyphsFrom (glyph : Glyph) (joined : Bool) (base : Option Char) : List Char → List Glyph
  | [] => [glyph]
  | c :: rest =>
    if joined then glyphsFrom (glyph.add c) false base rest
    else if c = joiner then glyphsFrom (glyph.add c) true base rest
    else if c = pictureMark then
      if base.any widens then glyphsFrom (glyph.add c 1) false none rest
      else glyphsFrom (glyph.add c) false base rest
    else if charCells c = 0 then glyphsFrom (glyph.add c) false base rest
    else glyph :: glyphsFrom ⟨[c], charCells c⟩ false (some c) rest

/-- The glyphs of a text. What comes first starts a glyph, whatever it is. -/
def glyphs : List Char → List Glyph
  | [] => []
  | c :: rest => glyphsFrom ⟨[c], charCells c⟩ false (baseAfter none c) rest

/-! ### Cutting -/

/-- A number of blanks. -/
def blanks (n : Nat) : List Char :=
  List.replicate n ' '

/-- The glyphs that fill a width. -/
def cropGlyphs (width : Nat) : List Glyph → List Char
  | [] => []
  | glyph :: rest =>
    if width = 0 then []
    else if glyph.width ≤ width then glyph.content ++ cropGlyphs (width - glyph.width) rest
    else blanks width

/-- The part of a text that fills a width. -/
def crop (width : Nat) (s : List Char) : List Char :=
  cropGlyphs width (glyphs s)

/-- Glyphs cut into pieces that fit into a width, behind a piece of `used` cells. -/
def chopGlyphs (width : Nat) (piece : List Char) (used : Nat) : List Glyph → List (List Char)
  | [] => if used = 0 then [] else [piece]
  | glyph :: rest =>
    if used + glyph.width ≤ width then
      chopGlyphs width (piece ++ glyph.content) (used + glyph.width) rest
    else piece :: chopGlyphs width glyph.content glyph.width rest

/-- A text cut into pieces that fit into a width. Where nothing in it takes a cell there are
none. -/
def chop (width : Nat) (s : List Char) : List (List Char) :=
  chopGlyphs width [] 0 (glyphs s)

end SocksRouter.Console
