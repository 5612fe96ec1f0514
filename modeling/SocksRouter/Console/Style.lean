import SocksRouter.Console.Color

/-!
# Styles

A style says how a text is drawn: with some features on or off, in a color, on a color, and as a
link. It is written in words in any order, and `Style.text` writes it in one order and with one word
for each feature, so texts for one style can be compared. The style of no words is written `none`.
-/

namespace SocksRouter.Console

open Text

/-- What may be on or off for a text. -/
inductive Feature
  /-- Heavy letters. -/
  | bold
  /-- Faint letters. -/
  | dim
  /-- Slanted letters. -/
  | italic
  /-- A line below. -/
  | underline
  /-- Blinking. -/
  | blink
  /-- Fast blinking. -/
  | fastBlink
  /-- The two colors exchanged. -/
  | reverse
  /-- Nothing is seen. -/
  | conceal
  /-- A line through the middle. -/
  | strike
  /-- Two lines below. -/
  | doubleUnderline
  /-- A frame around. -/
  | frame
  /-- A circle around. -/
  | encircle
  /-- A line above. -/
  | overline
  deriving DecidableEq, Repr

namespace Feature

/-- All features, in the order in which they are written. -/
def all : List Feature :=
  [bold, dim, italic, underline, blink, fastBlink, reverse, conceal, strike, doubleUnderline, frame,
    encircle, overline]

/-- The word for a feature. -/
def word : Feature → String
  | bold => "bold"
  | dim => "dim"
  | italic => "italic"
  | underline => "underline"
  | blink => "blink"
  | fastBlink => "blink2"
  | reverse => "reverse"
  | conceal => "conceal"
  | strike => "strike"
  | doubleUnderline => "underline2"
  | frame => "frame"
  | encircle => "encircle"
  | overline => "overline"

/-- The short word for a feature, if it has one. -/
def shortWord? : Feature → Option String
  | bold => some "b"
  | dim => some "d"
  | italic => some "i"
  | underline => some "u"
  | reverse => some "r"
  | conceal => some "c"
  | strike => some "s"
  | doubleUnderline => some "uu"
  | overline => some "o"
  | _ => none

/-- The feature that a word stands for. -/
def ofWord? (s : List Char) : Option Feature :=
  all.find? fun feature ↦
    feature.word.toList = s || feature.shortWord?.any (·.toList = s)

end Feature

/-- How a text is drawn. -/
structure Style where
  /-- The features that are said to be on or off, the last one said first. -/
  features : List (Feature × Bool) := []
  /-- The color of the letters. -/
  color : Option (List Char) := none
  /-- The color behind them. -/
  background : Option (List Char) := none
  /-- Where the text leads as a link. -/
  link : Option (List Char) := none
  deriving DecidableEq, Repr

namespace Style

/-- The style with a feature on or off. -/
def setFeature (style : Style) (feature : Feature) (on : Bool) : Style :=
  { style with features := (feature, on) :: style.features }

/-- Reads words behind those of a style. -/
def readFrom (style : Style) : List (List Char) → Except StyleError Style
  | [] => .ok style
  | word :: rest =>
    let key := lower word
    if key = "on".toList then
      match rest with
      | [] => .error .unknown
      | color :: rest =>
        match Color.readName color with
        | .ok name => readFrom { style with background := some name } rest
        | .error cause => .error cause
    else if key = "not".toList then
      match rest with
      | [] => .error .unknown
      | word :: rest =>
        match Feature.ofWord? word with
        | some feature => readFrom (style.setFeature feature false) rest
        | none => .error .unknown
    else if key = "link".toList then
      match rest with
      | [] => .error .unknown
      | target :: rest => readFrom { style with link := some target } rest
    else match Feature.ofWord? key with
      | some feature => readFrom (style.setFeature feature true) rest
      | none =>
        match Color.readName word with
        | .ok name => readFrom { style with color := some name } rest
        | .error cause => .error cause

/-- Reads a style. -/
def read (s : List Char) : Except StyleError Style :=
  if strip s = "none".toList then .ok {} else readFrom {} (words s)

/-- The words of a feature, if a style says something about it. -/
def featureWords (style : Style) (feature : Feature) : List (List Char) :=
  match style.features.lookup feature with
  | some true => [feature.word.toList]
  | some false => ["not".toList, feature.word.toList]
  | none => []

/-- A style as it is written. -/
def text (style : Style) : List Char :=
  let said := Feature.all.flatMap style.featureWords ++ style.color.toList ++
    (style.background.map fun name ↦ ["on".toList, name]).getD [] ++
    (style.link.map fun target ↦ ["link".toList, target]).getD []
  if said.isEmpty then "none".toList else [' '].intercalate said

end Style

end SocksRouter.Console
