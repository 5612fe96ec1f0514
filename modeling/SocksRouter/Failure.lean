import SocksRouter.Text.Quoted
import SocksRouter.Text.Utf8

/-!
# What goes wrong outside

The failures that the world outside reports to the router: the name services, the operating system
and the network. A failure has a kind, which decides who handles it, and a text of its own. What
goes wrong with a file is told apart further, as its path may be part of the wording.
-/

namespace SocksRouter

open Text

/-- The kinds of failure that the world outside reports. -/
inductive FailureKind
  /-- A name could not be looked up. -/
  | nameLookup
  /-- A name could not be encoded. -/
  | encoding
  /-- The operating system refused. -/
  | system
  /-- Time ran out. -/
  | timeout
  /-- A value was refused. -/
  | value
  /-- Something else failed. -/
  | runtime
  /-- The country data are missing. -/
  | countryData
  /-- No name server answered. -/
  | noNameserver
  deriving DecidableEq, Repr

/-- A failure reported from outside, with its own text. -/
structure Failure where
  /-- What kind of failure it is. -/
  kind : FailureKind
  /-- The text it came with. -/
  text : String
  deriving DecidableEq, Repr

/-- Whether a failure comes from the operating system, lookups and timeouts included. -/
def FailureKind.isSystem : FailureKind → Bool
  | nameLookup | system | timeout => true
  | _ => false

/-- Why a path leads to nothing. -/
inductive Absence
  /-- Nothing has that name. -/
  | noEntry
  /-- The path goes on behind a file. -/
  | behindFile
  /-- The path or a name in it is too long. -/
  | longName
  deriving DecidableEq, Repr

/-- The wording of an absence. -/
def Absence.message : Absence → String
  | .noEntry => "[Errno 2] No such file or directory"
  | .behindFile => "[Errno 20] Not a directory"
  | .longName => "[Errno 36] File name too long"

/-- The wording of a refusal to open a file. -/
def lockedMessage : String :=
  "[Errno 13] Permission denied"

/-- The wording of a refusal to take a text as a path. -/
def nullMessage : String :=
  "embedded null byte"

/-- Why a file cannot be read as text. -/
inductive FileError
  /-- What should be the path is none. -/
  | nullInPath
  /-- There is no such file. -/
  | missing (path : String) (cause : Absence)
  /-- The path leads to a directory. -/
  | directory (path : String)
  /-- The file may not be read. -/
  | locked (path : String)
  /-- The operating system does not open or read the file, for this reason. -/
  | failing (reason : String)
  /-- The bytes are no text. -/
  | notText (cause : Utf8Error)
  deriving DecidableEq, Repr

/-- The wording of a file error. -/
def FileError.message : FileError → String
  | .nullInPath => nullMessage
  | .missing path cause => s!"{cause.message}: {quote path}"
  | .directory path => "[Errno 21] Is a directory: " ++ quote path
  | .locked path => s!"{lockedMessage}: {quote path}"
  | .failing reason => reason
  | .notText cause => cause.message

end SocksRouter
