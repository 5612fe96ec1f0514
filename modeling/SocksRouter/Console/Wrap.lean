import SocksRouter.Console.Styled
import SocksRouter.Text.Blank
import SocksRouter.Text.Fields

/-!
# Wrapping

A line of text that is wider than its place on the console is broken at blanks, which stay with the
word before them. A word that is too wide for a line of its own is folded into pieces, or put on a
line of its own and cut there with an ellipsis. Blanks at the end of a line go only as far as they
do not fit, and a tab fills a line up to the next multiple of eight cells.
-/

namespace SocksRouter.Console

open Text

/-- What becomes of a word that is too wide. -/
inductive Overflow
  /-- It is cut into pieces. -/
  | fold
  /-- It is cut off, and an ellipsis tells so. -/
  | ellipsis
  deriving DecidableEq, Repr

/-- Where a line stands in its place. -/
inductive Justify
  /-- At the left, without being filled up. -/
  | asIs
  /-- At the left. -/
  | left
  /-- At the right. -/
  | right
  /-- In the middle. -/
  | center
  deriving DecidableEq, Repr

/-- The next multiple of eight. -/
def tabStop (position : Nat) : Nat :=
  (position + 7) / 8 * 8

/-- The parts of a line that end with its tabs. A tab counts as a blank of its part. -/
def tabbedParts (line : List Char) : List (List Char) :=
  let parts := fields (· == '\t') line
  parts.dropLast.map (· ++ blanks 1) ++ parts.getLast?.toList

/-- The parts of a line from a position on, with blanks for what its tabs fill up. -/
def fillTabs (position : Nat) : List Styled → List Styled
  | [] => []
  | [part] => [part]
  | part :: rest =>
    let reached := position + cells part.content
    part.extend (tabStop reached - reached) :: fillTabs (tabStop reached) rest

/-- The line without its tabs. -/
def expandTabs (line : Styled) : Styled :=
  Styled.join (fillTabs 0 (line.divide 0 (tabbedParts line.content)))

/-- A line cut into words, each with the blanks that follow it; the first one also has the blanks in
front of it. `word` is the word being read, latest first. -/
def wordsFrom (word : List Char) : List Char → List (List Char)
  | [] => if word.all isBlank then [] else [word.reverse]
  | c :: rest =>
    if !isBlank c && word.head?.any isBlank && !word.all isBlank then
      word.reverse :: wordsFrom [c] rest
    else wordsFrom (c :: word) rest

/-- A line cut into words with the blanks that belong to them. -/
def wordsWithBlanks (line : List Char) : List (List Char) :=
  wordsFrom [] line

/-- A line being filled: the lines before it, latest first, and the line itself. -/
structure Filling where
  /-- The lines that are complete, latest first. -/
  complete : List (List Char) := []
  /-- The line that words are put on. -/
  current : List Char := []
  /-- How many of its cells are taken. -/
  used : Nat := 0
  deriving DecidableEq, Repr

/-- Puts a text on a line of its own, behind the current line unless that is empty. -/
def Filling.addLine (filling : Filling) (s : List Char) : Filling :=
  let complete :=
    if filling.current.isEmpty then filling.complete else filling.current :: filling.complete
  ⟨complete, s, cells s⟩

/-- Puts a word on the current line, or on a line behind it where it does not fit. -/
def Filling.add (overflow : Overflow) (width : Nat) (filling : Filling) (word : List Char) :
    Filling :=
  if cells (stripEnd word) + filling.used ≤ width then
    { filling with current := filling.current ++ word, used := filling.used + cells word }
  else if width < cells (stripEnd word) ∧ overflow = .fold then
    match chop width word with
    | [] => { filling with current := filling.current ++ word }
    | pieces => pieces.foldl Filling.addLine filling
  else filling.addLine word

/-- A line broken into lines that fit, before their ends are trimmed. -/
def breakLine (overflow : Overflow) (width : Nat) (line : List Char) : List (List Char) :=
  match wordsWithBlanks line with
  | [] => [line]
  | words =>
    let filling := words.foldl (Filling.add overflow width) {}
    (filling.current :: filling.complete).reverse

/-- The line without the blanks at its end that are more than `width` characters. -/
def trimEnd (width : Nat) (line : Styled) : Styled :=
  line.cutTo (line.content.take (max width (stripEnd line.content).length))

/-- The line without the blanks at its end. -/
def trimBlanks (line : Styled) : Styled :=
  line.cutTo (stripEnd line.content)

/-- Cuts a line off at a width. -/
def truncate (overflow : Overflow) (width : Nat) (line : Styled) : Styled :=
  if cells line.content ≤ width then line
  else match overflow with
    | .fold => line.cutTo (crop width line.content)
    | .ellipsis => line.cutTo (crop (width - 1) line.content ++ ['…'])

/-- Puts a line where it stands. -/
def place (justify : Justify) (overflow : Overflow) (width : Nat) (line : Styled) : Styled :=
  match justify with
  | .asIs => truncate overflow width line
  | .left => (truncate overflow width line).follow (width - cells line.content)
  | .right =>
    let line := truncate overflow width (trimBlanks line)
    line.indent (width - cells line.content)
  | .center =>
    let line := truncate overflow width (trimBlanks line)
    let line := line.indent ((width - cells line.content) / 2)
    line.follow (width - cells line.content)

/-- The lines of a text on the console. -/
def wrap (justify : Justify) (overflow : Overflow) (width : Nat) (text : Styled) : List Styled :=
  (text.divide 1 (fields (· == '\n') text.content)).flatMap fun line ↦
    let line := expandTabs line
    (line.divide 0 (breakLine overflow width line.content)).map fun piece ↦
      place justify overflow width (trimEnd width piece)

/-- How wide the console is. -/
def consoleWidth : Nat := 80

/-- A text printed on the console, without a line break behind it. -/
def printed (text : Styled) : List Char :=
  ['\n'].intercalate ((wrap .asIs .fold consoleWidth text).map (Styled.limit consoleWidth))

end SocksRouter.Console
