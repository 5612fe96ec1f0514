import SocksRouter.Idna.Data.Classes
import SocksRouter.Idna.Punycode
import SocksRouter.Idna.Standard
import SocksRouter.Text.Fields
import SocksRouter.Text.Quoted
import SocksRouter.Text.Ranges

/-!
# Host names in ASCII

How a host name is sent over the wire. An ASCII name is sent as it is, letter case included, if its
labels have the right lengths: at most 63 characters each, and at least one except for the last. In
any other name each label that is not ASCII is folded, normalised, checked and, if it is still not
ASCII, written in Punycode behind `xn--`; four characters count as dots there.
-/

namespace SocksRouter.Idna

open Text

/-- Why a host name cannot be sent. -/
inductive NameError
  /-- A label is empty or has more than 63 characters. -/
  | emptyOrTooLong
  /-- The last label of an ASCII name has more than 63 characters. -/
  | tooLong
  /-- A label holds a character that is not allowed. -/
  | invalidCharacter (c : Char)
  /-- A label mixes the two directions of writing. -/
  | mixedDirections
  /-- A right-to-left label starts or ends with another character. -/
  | directionAtEdge
  /-- A label that is not ASCII looks encoded. -/
  | looksEncoded
  deriving DecidableEq, Repr

/-- The wording of a cause. -/
def NameError.cause : NameError → String
  | .emptyOrTooLong => "label empty or too long"
  | .tooLong => "label too long"
  | .invalidCharacter c => "Invalid character " ++ quote (String.ofList [c])
  | .mixedDirections => "Violation of BIDI requirement 2"
  | .directionAtEdge => "Violation of BIDI requirement 3"
  | .looksEncoded => "Label starts with ACE prefix"

/-- The wording of a name error. -/
def NameError.message (e : NameError) : String :=
  s!"encoding with 'idna' codec failed (UnicodeError: {e.cause})"

/-- Whether a character is ASCII. -/
def isAscii (c : Char) : Bool :=
  c.toNat < 0x80

/-- Whether a character counts as a dot between labels. -/
def isDot (c : Char) : Bool :=
  c.toNat ∈ [0x2E, 0x3002, 0xFF0E, 0xFF61]

/-- What a character is folded to. -/
def foldChar (c : Char) : List Char :=
  if inRanges erasedRanges c.toNat then []
  else match foldings[c.toNat]? with
    | some folded => folded.map Char.ofNat
    | none => [c]

/-- Whether a character is written from right to left. -/
def isRightToLeft (c : Char) : Bool :=
  inRanges rightToLeftRanges c.toNat

/-- Whether a character is written from left to right. -/
def isLeftToRight (c : Char) : Bool :=
  inRanges leftToRightRanges c.toNat

/-- Folds, normalises and checks a label. -/
def prepare (label : List Char) : Except NameError (List Char) :=
  let s := standardData.normalize (label.flatMap foldChar)
  match s.find? fun c ↦ inRanges prohibitedRanges c.toNat with
  | some c => .error (.invalidCharacter c)
  | none =>
    if !s.any isRightToLeft then .ok s
    else if s.any isLeftToRight then .error .mixedDirections
    else if !s.head?.any isRightToLeft ∨ !s.getLast?.any isRightToLeft then .error .directionAtEdge
    else .ok s

/-- A label that is ASCII, if its length is right. -/
def checkLength (label : List Char) : Except NameError (List Char) :=
  if 0 < label.length ∧ label.length < 64 then .ok label else .error .emptyOrTooLong

/-- A label in ASCII. -/
def encodeLabel (label : List Char) : Except NameError (List Char) :=
  if label.all isAscii then checkLength label
  else do
    let s ← prepare label
    if s.all isAscii then checkLength s
    else if "xn--".toList.isPrefixOf s then throw .looksEncoded
    else checkLength ("xn--".toList ++ Punycode.encode s)

/-- Checks the labels of an ASCII name. -/
def checkLabels : List (List Char) → Except NameError Unit
  | [] => .ok ()
  | [last] => if last.length < 64 then .ok () else .error .tooLong
  | label :: rest =>
    if 0 < label.length ∧ label.length < 64 then checkLabels rest else .error .emptyOrTooLong

/-- A host name in ASCII, as characters. -/
def encodeChars (name : List Char) : Except NameError (List Char) :=
  if name.all isAscii then
    if name.isEmpty then .ok [] else (checkLabels (fields (· == '.') name)).map fun _ ↦ name
  else do
    let labels := fields isDot name
    let (labels, tail) :=
      if labels.getLast? = some [] then (labels.dropLast, ['.']) else (labels, [])
    return ['.'].intercalate (← labels.mapM encodeLabel) ++ tail

/-- A host name in ASCII, as bytes. -/
def encode (name : String) : Except NameError (List UInt8) :=
  (encodeChars name.toList).map fun s ↦ s.map fun c ↦ UInt8.ofNat c.toNat

end SocksRouter.Idna
