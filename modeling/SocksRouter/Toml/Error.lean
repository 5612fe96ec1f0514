import SocksRouter.Text.Digits
import SocksRouter.Text.Quoted
import SocksRouter.Toml.Value

/-!
# Errors in a TOML document

An error has a cause and a place. The place is kept as the number of characters that were still to
be read, and turned into a line and a column when the whole document is at hand. A number that is
too long is no mistake in the document, and its place is not told.
-/

namespace SocksRouter.Toml

open Text

/-- What is wrong with a document. -/
inductive Cause
  /-- No statement can start here. -/
  | invalidStatement
  /-- A statement is not followed by the end of its line. -/
  | expectedLineEnd
  /-- A table is declared twice. -/
  | declaredTwice (key : Key)
  /-- A dotted key reaches into a table that was declared. -/
  | redefined (key : Key)
  /-- An array or table written as a value is added to. -/
  | immutable (key : Key)
  /-- A key has a value already. -/
  | overwritten
  /-- A key of an inline table has a value already. -/
  | duplicateKey (key : String)
  /-- The bracket behind a table name is missing. -/
  | expectedTableEnd
  /-- The brackets behind an array name are missing. -/
  | expectedArrayEnd
  /-- The equals sign behind a key is missing. -/
  | expectedEquals
  /-- No key can start here. -/
  | invalidKey
  /-- An array has no end. -/
  | unclosedArray
  /-- An inline table has no end. -/
  | unclosedTable
  /-- A closing quote is missing. -/
  | expected (quote : String)
  /-- A character may not stand in a comment or in a text without escapes. -/
  | foundInvalid (c : Char)
  /-- A text has no end. -/
  | unterminated
  /-- A backslash starts no escape. -/
  | unescaped
  /-- An escape has no hexadecimal digits. -/
  | invalidHex
  /-- An escape stands for no character. -/
  | notScalar
  /-- A character may not stand in a text. -/
  | illegal (c : Char)
  /-- There is no such date. -/
  | invalidMoment
  /-- No value can start here. -/
  | invalidValue
  /-- A number has too many digits. -/
  | tooLong (digits : Nat)
  deriving DecidableEq, Repr

/-- A character between quotes. -/
def quoteChar (c : Char) : String :=
  quote (String.ofList [c])

/-- The wording of a cause. -/
def Cause.message : Cause → String
  | invalidStatement => "Invalid statement"
  | expectedLineEnd => "Expected newline or end of document after a statement"
  | declaredTwice key => s!"Cannot declare {quoteRow key} twice"
  | redefined key => s!"Cannot redefine namespace {quoteRow key}"
  | immutable key => s!"Cannot mutate immutable namespace {quoteRow key}"
  | overwritten => "Cannot overwrite a value"
  | duplicateKey key => s!"Duplicate inline table key {quote key}"
  | expectedTableEnd => "Expected ']' at the end of a table declaration"
  | expectedArrayEnd => "Expected ']]' at the end of an array declaration"
  | expectedEquals => "Expected '=' after a key in a key/value pair"
  | invalidKey => "Invalid initial character for a key part"
  | unclosedArray => "Unclosed array"
  | unclosedTable => "Unclosed inline table"
  | expected mark => s!"Expected {quote mark}"
  | foundInvalid c => s!"Found invalid character {quoteChar c}"
  | unterminated => "Unterminated string"
  | unescaped => "Unescaped '\\' in a string"
  | invalidHex => "Invalid hex value"
  | notScalar => "Escaped character is not a Unicode scalar value"
  | illegal c => s!"Illegal character {quoteChar c}"
  | invalidMoment => "Invalid date or datetime"
  | invalidValue => "Invalid value"
  | tooLong digits => (NumberError.tooLong digits).message

/-- A cause, and how many characters were still to be read. -/
structure ScanError where
  /-- What is wrong. -/
  cause : Cause
  /-- How many characters were still to be read. -/
  left : Nat
  deriving DecidableEq, Repr

/-- A place in a text, by how many characters follow it: its line and column, or the end. -/
def placeText (s : List Char) (left : Nat) : String :=
  let before := s.take (s.length - left)
  if left = 0 then "end of document"
  else
    let line := before.count '\n' + 1
    let column := (before.reverse.takeWhile (· ≠ '\n')).length + 1
    s!"line {line}, column {column}"

/-- Whether a cause is a limit of the reader and no mistake in the document. -/
def Cause.isLimit : Cause → Bool
  | tooLong _ => true
  | _ => false

/-- The wording of an error in a document. -/
def ScanError.message (s : List Char) (error : ScanError) : String :=
  if error.cause.isLimit then error.cause.message
  else s!"{error.cause.message} (at {placeText s error.left})"

/-- Reading a part of a document: an error, or what was read and the characters behind it. -/
abbrev Scanned (α : Type) := Except ScanError (α × List Char)

/-- Stops in front of the given characters. -/
def fail {α : Type} (cause : Cause) (s : List Char) : Except ScanError α :=
  .error ⟨cause, s.length⟩

end SocksRouter.Toml
