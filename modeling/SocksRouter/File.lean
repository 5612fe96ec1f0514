import SocksRouter.Country.Database
import SocksRouter.Text.Lines

/-!
# Files

A file is what its path leads to: nothing, a directory, or some bytes, which may be those of an
address database. The operating system may also refuse to open or to read it. Reading a file as text
decodes its bytes strictly and unifies the line breaks.

A text with a null character is no path. Nothing is looked for then, and the error for it is not
among those of the operating system.
-/

namespace SocksRouter

open Text

/-- Whether the operating system takes a text as a path. -/
def isPath (text : String) : Bool :=
  '\x00' ∉ text.toList

/-- What a path leads to. -/
inductive FileContent
  /-- Nothing. -/
  | missing (cause : Absence := .noEntry)
  /-- A directory. -/
  | directory
  /-- A file that may not be read. -/
  | locked
  /-- A file that the operating system does not open or read for another reason, in its words. -/
  | failing (reason : String)
  /-- A file of these bytes, with the address database that they hold, if it is one. -/
  | bytes (content : List UInt8) (database : Option Database := none)
  deriving Repr

namespace FileContent

/-- Whether the path leads to anything. -/
def isThere : FileContent → Bool
  | missing _ => false
  | _ => true

/-- Reads the bytes of a file. -/
def readBytes (path : String) (file : FileContent) : Except FileError (List UInt8) :=
  if !isPath path then .error .nullInPath
  else match file with
    | missing cause => .error (.missing path cause)
    | directory => .error (.directory path)
    | locked => .error (.locked path)
    | failing reason => .error (.failing reason)
    | bytes content _ => .ok content

/-- Reads a file as text. -/
def readText (path : String) (file : FileContent) : Except FileError String :=
  match file.readBytes path with
  | .error e => .error e
  | .ok content =>
    match decodeUtf8 content with
    | .error cause => .error (.notText cause)
    | .ok s => .ok (String.ofList (unifyBreaks s))

end FileContent

/-- The file that holds a text and nothing else. -/
def FileContent.ofText (text : String) : FileContent :=
  .bytes (encodeUtf8 text.toList)

end SocksRouter
