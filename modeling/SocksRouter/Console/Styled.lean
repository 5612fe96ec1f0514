import SocksRouter.Console.Cells

/-!
# Styled texts

A styled text knows where styles apply in it: each span runs from one position up to another. What
the styles are is left out, since nothing here draws them, but their spans show all the same. A text
is drawn in stretches, which end where a span starts or stops. Each stretch is measured on its own,
so a joiner or a picture mark has no effect across the end of a stretch.

Most operations act on the content and say what becomes of the spans: they are divided with it
(`divide`), moved (`indent`), made longer (`extend`) or cut off at its end (`cutTo`).
-/

namespace SocksRouter.Console

/-- Where a style applies: from one position of a text up to another. -/
structure Span where
  /-- The first position. -/
  start : Nat
  /-- The position behind the last one. -/
  stop : Nat
  deriving DecidableEq, Repr

namespace Span

/-- The span when `n` characters come in front of its text. -/
def moved (n : Nat) (span : Span) : Span :=
  ⟨span.start + n, span.stop + n⟩

/-- What a span is in the part of its text from `start` up to `stop`, if any of it is there. -/
def within? (start stop : Nat) (span : Span) : Option Span :=
  let first := max start span.start
  let behind := min stop span.stop
  if first < behind then some ⟨first - start, behind - start⟩ else none

/-- What a span is when only `n` characters of its text are left, if it starts in them. -/
def cutAt? (n : Nat) (span : Span) : Option Span :=
  if span.start < n then some ⟨span.start, min span.stop n⟩ else none

end Span

/-- A text and where styles apply in it. -/
structure Styled where
  /-- The text. -/
  content : List Char
  /-- Where styles apply. -/
  spans : List Span := []
  deriving DecidableEq, Repr

namespace Styled

/-- Two texts behind each other. -/
def append (first second : Styled) : Styled :=
  ⟨first.content ++ second.content,
    first.spans ++ second.spans.map (Span.moved first.content.length)⟩

/-- Texts behind each other. -/
def join (parts : List Styled) : Styled :=
  parts.foldr append ⟨[], []⟩

/-- The pieces of a text from a position on, given the content of each. They lie `gap` characters
apart. -/
def pieces (text : Styled) (gap start : Nat) : List (List Char) → List Styled
  | [] => []
  | content :: rest =>
    let stop := start + content.length
    ⟨content, text.spans.filterMap (Span.within? start stop)⟩ :: text.pieces gap (stop + gap) rest

/-- A text divided into pieces, given the content of each. They lie `gap` characters apart. A text
in one piece keeps all its spans, even those of no character. -/
def divide (text : Styled) (gap : Nat) : List (List Char) → List Styled
  | [content] => [⟨content, text.spans⟩]
  | contents => text.pieces gap 0 contents

/-- The text with `n` blanks in front of it. -/
def indent (n : Nat) (text : Styled) : Styled :=
  ⟨blanks n ++ text.content, text.spans.map (Span.moved n)⟩

/-- The text with `n` blanks behind it, to which no style applies. -/
def follow (n : Nat) (text : Styled) : Styled :=
  { text with content := text.content ++ blanks n }

/-- The text with `n` blanks behind it, to which the styles at its end apply as well. -/
def extend (n : Nat) (text : Styled) : Styled :=
  ⟨text.content ++ blanks n, text.spans.map fun span ↦
    if text.content.length ≤ span.stop then { span with stop := span.stop + n } else span⟩

/-- The text with another content in its place, whose end cuts off the spans if it is shorter. -/
def cutTo (content : List Char) (text : Styled) : Styled :=
  if content.length < text.content.length then
    ⟨content, text.spans.filterMap (Span.cutAt? content.length)⟩
  else { text with content }

/-! ### Stretches -/

/-- Whether a stretch ends at a position. -/
def isEdge (text : Styled) (position : Nat) : Bool :=
  text.spans.any fun span ↦ span.start == position || span.stop == position

/-- The stretches of the characters from a position on. `stretch` is the one being read, its latest
character first. -/
def stretchesFrom (text : Styled) (stretch : List Char) (position : Nat) :
    List Char → List (List Char)
  | [] => [stretch.reverse]
  | c :: rest =>
    if text.isEdge position then
      stretch.reverse :: text.stretchesFrom [c] (position + 1) rest
    else text.stretchesFrom (c :: stretch) (position + 1) rest

/-- The stretches of a text, some of which may be empty. -/
def stretches (text : Styled) : List (List Char) :=
  text.stretchesFrom [] 0 text.content

/-- How many cells stretches take. -/
def drawnWidth (stretches : List (List Char)) : Nat :=
  totalWidth (stretches.map cells)

/-- The stretches that fill a width, of some that exceed it. -/
def cropStretches (width : Nat) : List (List Char) → List (List Char)
  | [] => []
  | stretch :: rest =>
    if cells stretch < width then stretch :: cropStretches (width - cells stretch) rest
    else if cells stretch = width then [stretch]
    else [crop width stretch]

/-- The characters that are drawn in a width. -/
def limit (width : Nat) (text : Styled) : List Char :=
  let stretches := text.stretches
  if drawnWidth stretches ≤ width then text.content else (cropStretches width stretches).flatten

/-- Stretches cut off at a width, or filled up to it with blanks. -/
def fitStretches (width : Nat) (stretches : List (List Char)) : List (List Char) :=
  if drawnWidth stretches ≤ width then stretches ++ [blanks (width - drawnWidth stretches)]
  else cropStretches width stretches

/-- The characters that are drawn in a width, with a blank on either side. -/
def framed (width : Nat) (text : Styled) : List Char :=
  let inner := fitStretches (width - 2) text.stretches
  (fitStretches width (blanks 1 :: inner ++ [blanks 1])).flatten

end Styled

end SocksRouter.Console
