import SocksRouter.Console.Emoji.Table
import SocksRouter.Text.Blank
import SocksRouter.Text.Fields
import SocksRouter.Text.Lowercase

/-!
# Pictures in a text

A name between colons stands for a picture when the console knows the name; the letter case of the
name does not matter. The name may end in `-text` or `-emoji`, which asks for one of the two ways to
draw the picture. A pair of colons with a blank between them is no name.
-/

namespace SocksRouter.Console

open Text

/-- The name and the picture of an entry of the table. -/
def emojiOf? (entry : List Char) : Option (List Char × List Char) :=
  match fields (fun c ↦ c = ':' || c = ',') entry with
  | [name, picture, []] => some (name, picture)
  | _ => none

/-- The names of the table, each with its picture. -/
def emojiEntries : List (List Char × List Char) :=
  (words emojiTable.toList).filterMap emojiOf?

/-- The picture of a name. -/
def picture? (name : List Char) : Option (List Char) :=
  emojiEntries.lookup (lower name)

/-- The ways to draw a picture, and the marks that ask for them. -/
def variants : List (List Char × Char) :=
  [("-emoji".toList, '\uFE0F'), ("-text".toList, '\uFE0E')]

/-- What a name between colons is shown as. -/
def shownName (find : List Char → Option (List Char)) (name : List Char) : Option (List Char) :=
  match variants.find? fun variant ↦ variant.1.isSuffixOf name with
  | some (ending, mark) =>
    (find (name.take (name.length - ending.length))).map fun picture ↦ picture ++ [mark]
  | none => find name

/-- A text whose names between colons are looked up. `name` is what stands behind an open colon,
latest first, if there is one. -/
def replaceNames (find : List Char → Option (List Char)) (name : Option (List Char)) :
    List Char → List Char
  | [] => match name with
    | none => []
    | some read => ':' :: read.reverse
  | c :: rest =>
    match name with
    | none =>
      if c = ':' then replaceNames find (some []) rest else c :: replaceNames find none rest
    | some read =>
      if c = ':' then
        (shownName find read.reverse).getD (':' :: read.reverse ++ [':']) ++
          replaceNames find none rest
      else if isBlank c then ':' :: read.reverse ++ c :: replaceNames find none rest
      else replaceNames find (some (c :: read)) rest

/-- The text with pictures in the place of their names. -/
def withPictures (s : List Char) : List Char :=
  replaceNames picture? none s

end SocksRouter.Console
