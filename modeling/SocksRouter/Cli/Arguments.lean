import SocksRouter.Text.Fields

/-!
# Command-line arguments

The arguments of a command are options and operands in any order. An option is a word behind two
dashes or a letter behind one; it takes the value behind its equals sign, behind its letter, or in
the next argument, whatever that looks like, or it takes none. Everything behind a bare `--` is an
operand. Of several uses of an option the last one counts.
-/

namespace SocksRouter.Cli

open Text

/-- What can be set for a command. -/
inductive Key
  /-- The rule file. -/
  | config
  /-- The country database. -/
  | database
  /-- The host to listen on. -/
  | host
  /-- The port to listen on. -/
  | port
  /-- The forward proxy. -/
  | forward
  /-- Whether details are logged. -/
  | debug
  /-- Whether rules are listed as lines of a rule file. -/
  | raw
  /-- Whether help is asked for. -/
  | help
  deriving DecidableEq, Repr

/-- What an option does. -/
inductive Effect
  /-- It sets its key to a value. -/
  | takesValue
  /-- It turns its key on or off. -/
  | turns (on : Bool)
  deriving DecidableEq, Repr

/-- A way to write an option. -/
structure Form where
  /-- The option as it is written, with its dashes. -/
  word : String
  /-- What it sets. -/
  key : Key
  /-- How it sets it. -/
  effect : Effect
  deriving DecidableEq, Repr

/-- Why arguments are refused. -/
inductive UsageError
  /-- There is no such command. -/
  | unknownCommand (word : String)
  /-- There is no such option. -/
  | unknownOption (word : String)
  /-- The value of an option is missing. -/
  | missingValue (word : String)
  /-- An option has a value that takes none. -/
  | unexpectedValue (word : String)
  /-- An option that has to be given is not. -/
  | missingOption (key : Key)
  /-- The value of an option is none that it can have. -/
  | badValue (key : Key) (value : String)
  /-- There are operands where none belong. -/
  | unexpectedOperand (word : String)
  /-- There are no operands. -/
  | missingOperand
  deriving DecidableEq, Repr

/-- What arguments say. -/
structure Arguments where
  /-- The values given to options, the last one first. -/
  values : List (Key × String) := []
  /-- The switches used, the last one first. -/
  switches : List (Key × Bool) := []
  /-- The operands, in order. -/
  operands : List String := []
  deriving DecidableEq, Repr

namespace Arguments

/-- The value given to an option. -/
def value? (arguments : Arguments) (key : Key) : Option String :=
  arguments.values.lookup key

/-- Whether a switch is on. -/
def isOn (arguments : Arguments) (key : Key) : Bool :=
  (arguments.switches.lookup key).getD false

/-- A value given to an option. -/
def setValue (arguments : Arguments) (key : Key) (value : String) : Arguments :=
  { arguments with values := (key, value) :: arguments.values }

/-- A switch that was used. -/
def setSwitch (arguments : Arguments) (key : Key) (on : Bool) : Arguments :=
  { arguments with switches := (key, on) :: arguments.switches }

/-- Further operands. -/
def addOperands (arguments : Arguments) (operands : List String) : Arguments :=
  { arguments with operands := arguments.operands ++ operands }

end Arguments

/-- What one argument is. -/
inductive Meaning
  /-- Everything behind it is an operand. -/
  | endOfOptions
  /-- An operand. -/
  | operand
  /-- An option with its value. -/
  | value (key : Key) (value : String)
  /-- An option whose value is the next argument. -/
  | valueFollows (key : Key)
  /-- A switch. -/
  | switch (key : Key) (on : Bool)
  deriving DecidableEq, Repr

/-- The option a word stands for. -/
def findForm (forms : List Form) (word : List Char) : Option Form :=
  forms.find? fun form ↦ form.word.toList = word

/-- What an option is that stands with `attached` directly behind it. -/
def optionMeaning (form : Form) (attached : Option (List Char)) : Except UsageError Meaning :=
  match form.effect, attached with
  | .takesValue, some value => .ok (.value form.key (String.ofList value))
  | .takesValue, none => .ok (.valueFollows form.key)
  | .turns on, none => .ok (.switch form.key on)
  | .turns _, some _ => .error (.unexpectedValue form.word)

/-- What an option in letters is. -/
def letterMeaning (forms : List Form) (word : List Char) : Except UsageError Meaning :=
  match findForm forms (word.take 2) with
  | some form =>
    optionMeaning form (if (word.drop 2).isEmpty then none else some (word.drop 2))
  | none => .error (.unknownOption (String.ofList (word.take 2)))

/-- What an argument is. -/
def meaning (forms : List Form) (argument : String) : Except UsageError Meaning :=
  match argument.toList with
  | ['-', '-'] => .ok .endOfOptions
  | '-' :: '-' :: rest =>
    let (word, attached) := match cutFirst '=' ('-' :: '-' :: rest) with
      | some (word, value) => (word, some value)
      | none => ('-' :: '-' :: rest, none)
    match findForm forms word with
    | some form => optionMeaning form attached
    | none => .error (.unknownOption (String.ofList word))
  | '-' :: letter :: rest => letterMeaning forms ('-' :: letter :: rest)
  | _ => .ok .operand

/-- Reads arguments behind those already read. -/
def readFrom (forms : List Form) (got : Arguments) : List String → Except UsageError Arguments
  | [] => .ok got
  | argument :: rest => do
    match ← meaning forms argument with
    | .endOfOptions => return got.addOperands rest
    | .operand => readFrom forms (got.addOperands [argument]) rest
    | .value key value => readFrom forms (got.setValue key value) rest
    | .switch key on => readFrom forms (got.setSwitch key on) rest
    | .valueFollows key =>
      match rest with
      | [] => throw (.missingValue argument)
      | value :: rest => readFrom forms (got.setValue key value) rest

/-- Reads the arguments of a command. -/
def readArguments (forms : List Form) (arguments : List String) : Except UsageError Arguments :=
  readFrom forms {} arguments

/-- The name of the command and its arguments, if there is one. A bare `--` in front of it is
dropped, and no option may stand there except the one that asks for help. -/
def splitCommand : List String → Except UsageError (Option (String × List String))
  | [] => .ok none
  | "--" :: rest => .ok (rest.head?.map fun name ↦ (name, rest.tail))
  | word :: rest =>
    match word.toList with
    | '-' :: _ :: _ => .error (.unknownOption word)
    | _ => .ok (some (word, rest))

end SocksRouter.Cli
