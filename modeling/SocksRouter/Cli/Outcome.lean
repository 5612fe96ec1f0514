import SocksRouter.Console.Markup
import SocksRouter.Console.Wrap
import SocksRouter.Fault

/-!
# What a command comes to

A command leaves an exit code, the text it printed, and the calls it made into the rest of the
router. It may also crash on a failure that it does not handle.
-/

namespace SocksRouter.Cli

/-- A call that a command makes. -/
inductive Call
  /-- Logging is configured. -/
  | configureLogging (debug toFile : Bool)
  /-- The server is started. -/
  | serve (host : String) (port : Int) (config database : String) (forward : Option ForwardProxy)
  deriving DecidableEq, Repr

/-- A failure that a command does not handle. -/
inductive Crash
  /-- A failure reported from outside. -/
  | failure (cause : Failure)
  /-- A fault of a decision. -/
  | fault (cause : Fault)
  /-- A text that cannot be shown. -/
  | markup (cause : Console.MarkupError)
  deriving DecidableEq, Repr

/-- What a command comes to. -/
structure Outcome where
  /-- The exit code. -/
  exit : Nat
  /-- The calls made, in order. -/
  calls : List Call := []
  /-- What was printed, where it is fixed: a refusal of the arguments has no fixed text. -/
  output : Option (List Char) := none
  /-- The failure it crashed on, if it did. -/
  crash : Option Crash := none
  deriving DecidableEq, Repr

namespace Outcome

/-- The arguments are refused. -/
def refused : Outcome :=
  { exit := 2 }

/-- The command is done and printed this. -/
def done (output : List Char) : Outcome :=
  { exit := 0, output := some output }

/-- The command crashed after printing this. -/
def crashed (output : List Char) (cause : Crash) : Outcome :=
  { exit := 1, output := some output, crash := some cause }

/-- The command failed after printing this, and says why. -/
def failed (output : List Char) (message : String) : Outcome :=
  let text := ("[red]Error: " ++ message).toList
  match Console.ofMarkup text <* Console.checkStyles text with
  | .ok text => { exit := 1, output := some (output ++ Console.printed text ++ ['\n']) }
  | .error cause => crashed output (.markup cause)

/-- The outcome of a command that made these calls. -/
def withCalls (outcome : Outcome) (calls : List Call) : Outcome :=
  { outcome with calls }

end Outcome

end SocksRouter.Cli
