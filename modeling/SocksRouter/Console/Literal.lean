import SocksRouter.Console.Literal.Token

/-!
# Written values

Whether a text writes a value: a number, a text or several in a row, one of the constants, a row of
values in parentheses or without them, or a set or table in braces. A number may have a sign; an
imaginary number may be added to a real one or taken from it. The members of a set and the keys of a
table have to be values that cannot change, which sets and tables can.

A text is read from left to right. `Frame` is an open bracket with the parts that have been read
behind it, and a closing bracket turns it into a value.
-/

namespace SocksRouter.Console.Literal

/-- A value, as far as it decides where it may stand. -/
inductive Value
  /-- A number without a sign. -/
  | number (value : Numeral)
  /-- A number with a sign. -/
  | signed (value : Numeral)
  /-- Another value, and whether it can be a key. -/
  | other (isKey : Bool)
  deriving DecidableEq, Repr

/-- Whether a value can be a key. -/
def Value.isKey : Value → Bool
  | .other isKey => isKey
  | _ => true

/-- A part of what stands in brackets. -/
inductive Part
  /-- A piece that has not been put together with others yet. -/
  | token (token : Token)
  /-- A value in brackets. -/
  | value (value : Value)
  /-- A pair of parentheses with nothing in it. -/
  | emptyRound
  deriving DecidableEq, Repr

/-- The number from which on none can be added to an imaginary number. -/
def sumLimit : Nat :=
  Nat.pow 2 1024 - Nat.pow 2 970

/-- Whether an imaginary number may be added to a number. -/
def Numeral.isSummand : Numeral → Bool
  | .whole value => value < sumLimit
  | .decimal => true
  | .imaginary => false

/-- The value of a part on its own. -/
def Part.value? : Part → Option Value
  | .token (.numeral n) => some (.number n)
  | .token (.quoted _) | .token .dots | .emptyRound => some (.other true)
  | .token (.word name) =>
    if name ∈ ["True".toList, "False".toList, "None".toList] then some (.other true) else none
  | .value inner => some inner
  | _ => none

/-- Whether parts are texts of one kind. -/
def areTexts : List Part → Bool
  | .token (.quoted isBytes) :: rest => rest.all (· == .token (.quoted isBytes))
  | _ => false

/-- The value of a number and an imaginary number, one added to the other. -/
def sum? (left right : Value) : Option Value :=
  match left, right with
  | .number value, .number .imaginary | .signed value, .number .imaginary =>
    if value.isSummand then some (.other true) else none
  | _, _ => none

/-- The value of a number with a sign. -/
def negate? : Value → Option Value
  | .number value => some (.signed value)
  | _ => none

/-- The value of parts without separators between them. -/
def ofParts? (parts : List Part) : Option Value :=
  if areTexts parts then some (.other true)
  else match parts with
    | [part] => part.value?
    | [.token .sign, part] => part.value?.bind negate?
    | [.token (.word name), .emptyRound] =>
      if name = "set".toList then some (.other false) else none
    | [left, .token .sign, right] => do sum? (← left.value?) (← right.value?)
    | [.token .sign, left, .token .sign, right] => do
      sum? (← negate? (← left.value?)) (← right.value?)
    | _ => none

/-- The parts between separators. -/
def cutAt (separator : Token) : List Part → List (List Part)
  | [] => [[]]
  | part :: rest =>
    if part = .token separator then [] :: cutAt separator rest
    else match cutAt separator rest with
      | [] => [[part]]
      | first :: more => (part :: first) :: more

/-- The parts between commas, of which one may stand at the end. -/
def items (parts : List Part) : List (List Part) :=
  let cut := cutAt .comma parts
  if cut.getLast? = some [] then cut.dropLast else cut

/-- The value of a row of values. A single value without a comma stands for itself. -/
def row? (parts : List Part) : Option Value := do
  let values ← (items parts).mapM ofParts?
  match values with
  | [] => none
  | [value] => return if .token .comma ∈ parts then .other value.isKey else value
  | _ => return .other (values.all Value.isKey)

/-- Whether parts are a key and its value. -/
def isEntry (parts : List Part) : Bool :=
  match (cutAt .colon parts).mapM ofParts? with
  | some [key, _] => key.isKey
  | _ => false

/-- Whether parts are a member of a set. -/
def isMember (parts : List Part) : Bool :=
  (ofParts? parts).any Value.isKey

/-- The part that a pair of brackets makes. -/
def closed? : Bracket → List Part → Option Part
  | .round, [] => some .emptyRound
  | .round, parts => (row? parts).map .value
  | .curly, parts =>
    let items := items parts
    if items.all isEntry || items.all isMember then some (.value (.other false)) else none

/-- An open bracket, with the parts behind it, latest first. -/
structure Frame where
  /-- The bracket. -/
  bracket : Bracket
  /-- The parts. -/
  parts : List Part := []
  deriving DecidableEq, Repr

/-- What has been read of a text: the parts outside of brackets and the open brackets, latest first
each. -/
structure Reading where
  /-- The parts outside of brackets. -/
  outside : List Part := []
  /-- The open brackets. -/
  frames : List Frame := []
  deriving DecidableEq, Repr

/-- The reading with a further part. -/
def Reading.add (reading : Reading) (part : Part) : Reading :=
  match reading.frames with
  | [] => { reading with outside := part :: reading.outside }
  | frame :: rest =>
    { reading with frames := { frame with parts := part :: frame.parts } :: rest }

/-- What a token does to a reading. -/
def Reading.step (reading : Reading) : Token → Option Reading
  | .opening bracket => some { reading with frames := ⟨bracket, []⟩ :: reading.frames }
  | .closing bracket =>
    match reading.frames with
    | [] => none
    | frame :: rest =>
      if frame.bracket = bracket then
        (closed? bracket frame.parts.reverse).map ({ reading with frames := rest }.add ·)
      else none
  | token => some (reading.add (.token token))

/-- Parts without the ends of lines in front of them and behind them. -/
def trimLines (parts : List Part) : List Part :=
  let isEnd (part : Part) : Bool := part == .token .lineEnd
  ((parts.dropWhile isEnd).reverse.dropWhile isEnd).reverse

/-- Whether a text writes a value. -/
def isValue (s : List Char) : Bool :=
  match (tokens? s).bind fun tokens ↦ tokens.foldlM Reading.step {} with
  | some ⟨outside, []⟩ => (row? (trimLines outside.reverse)).isSome
  | _ => false

end SocksRouter.Console.Literal
