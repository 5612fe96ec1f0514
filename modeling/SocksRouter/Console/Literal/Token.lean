import SocksRouter.Text.Digits
import SocksRouter.Text.Lines
import SocksRouter.Text.Radix

/-!
# Tokens of a written value

The pieces that written values are made of: numbers, quoted texts, the words for constants, three
dots, signs, separators and brackets. Blanks and comments stand between them; outside of brackets
the end of a line counts, and a line that starts with a blank is told from one that does not.

A quoted text may have letters in front that tell its kind. An `r` takes every backslash for itself,
a `b` makes it bytes, which may be written in ASCII only. Elsewhere a backslash starts an escape,
and one for a code point needs all of its digits. Square brackets and characters by their names have
no token.
-/

namespace SocksRouter.Console.Literal

open Text

/-- A number as it is written. -/
inductive Numeral
  /-- A whole number. -/
  | whole (value : Nat)
  /-- A number with a point or an exponent. -/
  | decimal
  /-- A multiple of the imaginary unit. -/
  | imaginary
  deriving DecidableEq, Repr

/-- The brackets that a value may stand in. -/
inductive Bracket
  /-- Parentheses. -/
  | round
  /-- Braces. -/
  | curly
  deriving DecidableEq, Repr

/-- A piece of a written value. -/
inductive Token
  /-- A number. -/
  | numeral (value : Numeral)
  /-- A quoted text. -/
  | quoted (isBytes : Bool)
  /-- A word. -/
  | word (name : List Char)
  /-- Three dots. -/
  | dots
  /-- A plus or a minus sign. -/
  | sign
  /-- A comma. -/
  | comma
  /-- A colon. -/
  | colon
  /-- An opening bracket. -/
  | opening (bracket : Bracket)
  /-- A closing bracket. -/
  | closing (bracket : Bracket)
  /-- The end of a line outside of brackets. -/
  | lineEnd
  /-- Blanks at the start of a line outside of brackets. -/
  | indent
  deriving DecidableEq, Repr

/-- Whether a character may stand in a word. -/
def isNameChar (c : Char) : Bool :=
  c.isAlphanum || c = '_'

/-- Whether a character is a blank inside a line. -/
def isSpace (c : Char) : Bool :=
  c = ' ' || c = '\t' || c = '\x0c'

/-! ### Numbers -/

/-- The base that a letter behind a zero tells. -/
def baseOf? (letter : Char) : Option Nat :=
  if letter = 'x' || letter = 'X' then some 16
  else if letter = 'o' || letter = 'O' then some 8
  else if letter = 'b' || letter = 'B' then some 2
  else none

/-- Drops an underscore. -/
def dropUnderscore : List Char → List Char
  | '_' :: rest => rest
  | s => s

/-- Reads a number in another base than ten, behind its zero. -/
def basedNumeral? : List Char → Option (Numeral × List Char)
  | [] => none
  | letter :: rest => do
    let base ← baseOf? letter
    let (digits, rest) ← groupedDigits? (isDigitOf base) (dropUnderscore rest)
    return (.whole (ofDigits base digits), rest)

/-- Reads the fraction behind digits. The second value tells whether there is one. -/
def fraction (s : List Char) : List Char × Bool :=
  match s with
  | '.' :: rest =>
    match groupedDigits? isAsciiDigit rest with
    | some (_, rest) => (rest, true)
    | none => (rest, true)
  | _ => (s, false)

/-- Drops a sign. -/
def dropSign : List Char → List Char
  | '+' :: rest => rest
  | '-' :: rest => rest
  | s => s

/-- Reads the exponent behind digits. The second value tells whether there is one. -/
def exponent (s : List Char) : List Char × Bool :=
  match s with
  | c :: rest =>
    if c = 'e' || c = 'E' then
      match groupedDigits? isAsciiDigit (dropSign rest) with
      | some (_, rest) => (rest, true)
      | none => (s, false)
    else (s, false)
  | [] => (s, false)

/-- Reads what follows the digits of a number in base ten. A whole number may not start with a zero,
unless it is zero, and may have no more than `maxDigits` digits. -/
def numeralBehind? (digits : List Char) (s : List Char) : Option (Numeral × List Char) :=
  let (s, hasFraction) := fraction s
  let (s, hasExponent) := exponent s
  match s with
  | 'j' :: rest | 'J' :: rest => some (.imaginary, rest)
  | _ =>
    if hasFraction || hasExponent then some (.decimal, s)
    else if digits.all (· = '0') then some (.whole 0, s)
    else if digits.head? = some '0' || maxDigits < digits.length then none
    else some (.whole (ofDigits 10 digits), s)

/-- Reads a number in base ten. It may start with its point. -/
def decimalNumeral? (s : List Char) : Option (Numeral × List Char) :=
  match groupedDigits? isAsciiDigit s with
  | some (digits, rest) => numeralBehind? digits rest
  | none => numeralBehind? [] s

/-- Reads a number, behind which no word may start. -/
def numeral? (s : List Char) : Option (Numeral × List Char) := do
  let based := match s with
    | '0' :: rest => basedNumeral? rest
    | _ => none
  let (value, rest) ← based.or (decimalNumeral? s)
  if rest.head?.any isNameChar then none else return (value, rest)

/-! ### Quoted texts -/

/-- The kinds of quoted text. -/
structure TextKind where
  /-- Whether backslashes stand for themselves. -/
  isRaw : Bool
  /-- Whether it is bytes. -/
  isBytes : Bool
  deriving DecidableEq, Repr

/-- The kind that letters in front of a quote tell. -/
def textKind? (word : List Char) : Option TextKind :=
  match String.ofList (word.map Char.toLower) with
  | "" | "u" => some ⟨false, false⟩
  | "r" => some ⟨true, false⟩
  | "b" => some ⟨false, true⟩
  | "br" | "rb" => some ⟨true, true⟩
  | _ => none

/-- How many hexadecimal digits an escape has behind its letter. -/
def escapeDigits (isBytes : Bool) (letter : Char) : Nat :=
  if letter = 'x' then 2
  else if isBytes then 0
  else if letter = 'u' then 4
  else if letter = 'U' then 8
  else 0

/-- Whether an escape may go on like this behind its backslash. -/
def isEscape (isBytes : Bool) (letter : Char) (rest : List Char) : Bool :=
  let digits := rest.take (escapeDigits isBytes letter)
  digits.length = escapeDigits isBytes letter && digits.all (isDigitOf 16) &&
    ofDigits 16 digits ≤ 0x10FFFF && (isBytes || letter ≠ 'N')

/-- Whether a character may stand in a quoted text. -/
def fits (isBytes : Bool) (c : Char) : Bool :=
  c ≠ '\x00' && (!isBytes || c.toNat < 0x80)

/-- What follows the quotes at the end of a text, one or three of them. -/
def behindText? (kind : TextKind) (mark : Char) (isLong : Bool) : List Char → Option (List Char)
  | [] => none
  | '\\' :: c :: rest =>
    if fits kind.isBytes c && (kind.isRaw || isEscape kind.isBytes c rest) then
      behindText? kind mark isLong rest
    else none
  | c :: rest =>
    if c = mark && !isLong then some rest
    else if c = mark && [mark, mark].isPrefixOf rest then some (rest.drop 2)
    else if (c = '\n' && !isLong) || !fits kind.isBytes c then none
    else behindText? kind mark isLong rest

/-- What follows a quoted text that starts with its quote. -/
def quoted? (kind : TextKind) : List Char → Option (List Char)
  | [] => none
  | mark :: rest =>
    if [mark, mark].isPrefixOf rest then behindText? kind mark true (rest.drop 2)
    else behindText? kind mark false rest

/-! ### All tokens -/

/-- The token that one character makes. -/
def markToken? (c : Char) : Option Token :=
  match c with
  | '+' | '-' => some .sign
  | ',' => some .comma
  | ':' => some .colon
  | '(' => some (.opening .round)
  | ')' => some (.closing .round)
  | '{' => some (.opening .curly)
  | '}' => some (.closing .curly)
  | _ => none

/-- Whether a quote comes first. -/
def startsQuoted (s : List Char) : Bool :=
  s.head?.any fun c ↦ c = '\'' || c = '"'

/-- The token at the start of a text, and what follows it. -/
def readToken? (s : List Char) : Option (Token × List Char) :=
  let word := s.takeWhile isNameChar
  let behind := s.dropWhile isNameChar
  if ['.', '.', '.'].isPrefixOf s then some (.dots, s.drop 3)
  else if startsQuoted behind then do
    let kind ← textKind? word
    return (.quoted kind.isBytes, ← quoted? kind behind)
  else match s with
    | [] => none
    | c :: rest =>
      if isAsciiDigit c || (c = '.' && rest.head?.any isAsciiDigit) then
        (numeral? s).map fun (value, rest) ↦ (.numeral value, rest)
      else if isNameChar c then some (.word word, behind)
      else (markToken? c).map fun token ↦ (token, rest)

/-- How many brackets may be open at a time. -/
def maxDepth : Nat := 200

/-- How many brackets are open behind a token. -/
def depthAfter (depth : Nat) : Token → Nat
  | .opening _ => depth + 1
  | .closing _ => depth - 1
  | _ => depth

/-- What follows the end of a line outside of brackets: the end of the line and, where the next line
starts with blanks in front of something, an indent. -/
def lineStart (s : List Char) : List Token :=
  let behind := s.dropWhile isSpace
  let isBare := behind.isEmpty || behind.head? = some '\n' || behind.head? = some '#'
  if isBare || behind.length = s.length then [.lineEnd] else [.lineEnd, .indent]

/-- The tokens of a text, at most `rounds` of them, when `depth` brackets are open. -/
def tokensFrom : Nat → Nat → List Char → Option (List Token)
  | 0, _, _ => none
  | _ + 1, _, [] => some []
  | rounds + 1, depth, c :: rest =>
    if isSpace c then tokensFrom rounds depth rest
    else if c = '\\' then
      match rest with
      | '\n' :: rest => tokensFrom rounds depth rest
      | _ => none
    else if c = '#' then
      if (rest.takeWhile (· ≠ '\n')).contains '\x00' then none
      else tokensFrom rounds depth (rest.dropWhile (· ≠ '\n'))
    else if c = '\n' then
      if depth = 0 then (tokensFrom rounds depth rest).map (lineStart rest ++ ·)
      else tokensFrom rounds depth rest
    else match readToken? (c :: rest) with
      | none => none
      | some (token, rest) =>
        if maxDepth < depthAfter depth token then none
        else (tokensFrom rounds (depthAfter depth token) rest).map (token :: ·)

/-- The tokens of a text. -/
def tokens? (s : List Char) : Option (List Token) :=
  let s := unifyBreaks s
  tokensFrom (s.length + 1) 0 s

end SocksRouter.Console.Literal
