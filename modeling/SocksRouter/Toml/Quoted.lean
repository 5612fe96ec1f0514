import SocksRouter.Text.Radix
import SocksRouter.Toml.Error

/-!
# Quoted texts of a TOML document

A text stands between quotes, single or double, one or three of them. Between double quotes a
backslash starts an escape; between single quotes every character stands for itself. Only texts
between three quotes may go over several lines, and those may end in up to two quotes of their own.
-/

namespace SocksRouter.Toml

open Text

/-- A blank inside a line. -/
def isBlankInLine (c : Char) : Bool :=
  c = ' ' || c = '\t'

/-- A blank, line breaks included. -/
def isBlankOrBreak (c : Char) : Bool :=
  isBlankInLine c || c = '\n'

/-- Whether a character may not stand in a line of text or in a comment. -/
def isForbidden (c : Char) : Bool :=
  (c.toNat < 32 || c.toNat = 127) && c ≠ '\t'

/-- Whether a character may not stand in a text, given whether that may go over several lines. -/
def isForbiddenIn (multiline : Bool) (c : Char) : Bool :=
  isForbidden c && !(multiline && c = '\n')

/-- The number that hexadecimal digits stand for. -/
def readHex? (digits : List Char) : Option Nat := do
  let values ← digits.mapM hexValue?
  return values.foldl (fun n value ↦ n * 16 + value) 0

/-- Reads the character that stands behind an escape as `count` hexadecimal digits. -/
def hexChar (count : Nat) (s : List Char) : Except ScanError (List Char × List Char) :=
  let digits := s.take count
  match readHex? digits with
  | some n =>
    if digits.length < count then fail .invalidHex s
    else if n.isValidChar then .ok ([Char.ofNat n], s.drop count)
    else fail .notScalar (s.drop count)
  | none => fail .invalidHex s

/-- What a backslash and one letter stand for. -/
def simpleEscape? (c : Char) : Option Char :=
  match c with
  | 'b' => some '\x08'
  | 't' => some '\t'
  | 'n' => some '\n'
  | 'f' => some '\x0c'
  | 'r' => some '\r'
  | '"' => some '"'
  | '\\' => some '\\'
  | _ => none

/-- Reads an escape behind its backslash. A backslash at the end of a line joins it to the next
line that is not blank. -/
def escape (multiline : Bool) (s : List Char) : Except ScanError (List Char × List Char) :=
  match s with
  | [] => fail .unescaped []
  | c :: rest =>
    if multiline && isBlankOrBreak c then
      match s.dropWhile isBlankInLine with
      | [] => .ok ([], [])
      | '\n' :: after => .ok ([], after.dropWhile isBlankOrBreak)
      | after => fail .unescaped after
    else if c = 'u' then hexChar 4 rest
    else if c = 'U' then hexChar 8 rest
    else match simpleEscape? c with
      | some shown => .ok ([shown], rest)
      | none => fail .unescaped rest

theorem length_dropWhile_le_length (p : Char → Bool) (s : List Char) :
    (s.dropWhile p).length ≤ s.length :=
  (List.dropWhile_suffix p).length_le

theorem length_hexChar {count : Nat} {s shown after : List Char}
    (h : hexChar count s = .ok (shown, after)) : after.length ≤ s.length := by
  unfold hexChar at h
  simp only [fail] at h
  split at h
  · split at h
    · simp at h
    · split at h
      · obtain ⟨-, rfl⟩ := Prod.mk.inj (Except.ok.inj h)
        simp
      · simp at h
  · simp at h

/-- An escape never gives characters back. -/
theorem length_escape {multiline : Bool} {s shown after : List Char}
    (h : escape multiline s = .ok (shown, after)) : after.length ≤ s.length := by
  unfold escape at h
  simp only [fail] at h
  split at h
  · simp at h
  · rename_i c rest
    split at h
    · have hdrop := length_dropWhile_le_length isBlankInLine (c :: rest)
      split at h
      · obtain ⟨-, rfl⟩ := Prod.mk.inj (Except.ok.inj h)
        simp
      · rename_i more hmore
        obtain ⟨-, rfl⟩ := Prod.mk.inj (Except.ok.inj h)
        rw [hmore] at hdrop
        have := length_dropWhile_le_length isBlankOrBreak more
        simp only [List.length_cons] at hdrop ⊢
        omega
      · simp at h
    · split at h
      · have := length_hexChar h
        simp only [List.length_cons]
        omega
      · split at h
        · have := length_hexChar h
          simp only [List.length_cons]
          omega
        · split at h
          · obtain ⟨-, rfl⟩ := Prod.mk.inj (Except.ok.inj h)
            simp
          · simp at h

/-- Reads a text between double quotes, behind the opening ones. `read` is what has been read of it,
latest first. -/
def basicText (multiline : Bool) (read : List Char) (s : List Char) :
    Except ScanError (List Char × List Char) :=
  match s with
  | [] => fail .unterminated []
  | c :: rest =>
    if c = '"' then
      if !multiline then .ok (read.reverse, rest)
      else if ['"', '"'].isPrefixOf rest then .ok (read.reverse, rest.drop 2)
      else basicText multiline ('"' :: read) rest
    else if c = '\\' then
      match _h : escape multiline rest with
      | .error error => .error error
      | .ok (shown, after) => basicText multiline (shown.reverse ++ read) after
    else if isForbiddenIn multiline c then fail (.illegal c) (c :: rest)
    else basicText multiline (c :: read) rest
termination_by s.length
decreasing_by
  · simp
  · have := length_escape _h
    simp only [List.length_cons]
    omega
  · simp

/-- What stands in front of the first occurrence of `mark`, and what follows that. -/
def cutMark (mark : List Char) : List Char → Option (List Char × List Char)
  | [] => if mark.isEmpty then some ([], []) else none
  | c :: rest =>
    if mark.isPrefixOf (c :: rest) then some ([], (c :: rest).drop mark.length)
    else (cutMark mark rest).map fun (before, after) ↦ (c :: before, after)

/-- Refuses a stretch of text with a forbidden character in it. `s` is the stretch and all that
follows it. -/
def checkStretch (multiline : Bool) (stretch s : List Char) : Except ScanError Unit :=
  let clean := stretch.takeWhile fun c ↦ !isForbiddenIn multiline c
  match stretch.drop clean.length with
  | [] => .ok ()
  | c :: _ => fail (.foundInvalid c) (s.drop clean.length)

/-- Reads a text between single quotes, behind the opening ones. -/
def literalText (multiline : Bool) (s : List Char) : Except ScanError (List Char × List Char) := do
  let mark := List.replicate (if multiline then 3 else 1) '\''
  match cutMark mark s with
  | none => fail (.expected (String.ofList mark)) []
  | some (before, after) =>
    checkStretch multiline before s
    return (before, after)

/-- Takes up to two more quotes into a text that ended in three. -/
def extraQuotes (mark : Char) (text s : List Char) : List Char × List Char :=
  let extra := (s.take 2).takeWhile (· = mark)
  (text ++ extra, s.drop extra.length)

/-- Reads a text between three quotes, behind the opening ones. A line break right behind them does
not count. -/
def longText (mark : Char) (s : List Char) : Except ScanError (List Char × List Char) := do
  let s := if s.head? = some '\n' then s.drop 1 else s
  let (text, after) ← if mark = '"' then basicText true [] s else literalText true s
  return extraQuotes mark text after

/-- Reads a text between quotes of any kind, if one starts here. -/
def quotedText? (s : List Char) : Option (Scanned (List Char)) :=
  match s with
  | '"' :: '"' :: '"' :: rest => some (longText '"' rest)
  | '"' :: rest => some (basicText false [] rest)
  | '\'' :: '\'' :: '\'' :: rest => some (longText '\'' rest)
  | '\'' :: rest => some (literalText false rest)
  | _ => none

end SocksRouter.Toml
