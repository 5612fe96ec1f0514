import SocksRouter.Rule.RuleSet
import SocksRouter.Text.Blank
import SocksRouter.Text.Fields
import SocksRouter.Text.Lines

/-!
# Rule files

A rule file is read line by line, each line without the blanks at its ends. Empty lines and lines
that start with `#` are skipped, `[General]` and `[Rule]` switch the section, and only lines of the
rule section are read as rules. A line that is no rule is reported and otherwise ignored, so reading
never fails; of several final rules the last one counts.

`parseLine` reads one line, `Reading.step` is what a line does to what has been read so far, and
`parseConfig` is the run of these steps over all lines of a text.
-/

namespace SocksRouter

open Text

/-- What was noticed while rules were read. -/
inductive ParseNotice
  /-- The parts of a line make no rule. -/
  | rejected (line : String) (cause : RuleError)
  /-- A line of the rule section is no rule. -/
  | invalid (number : Nat) (line : String)
  deriving DecidableEq, Repr

/-- Reads one rule line: a final rule of two fields or any other rule of three. Also tells what was
noticed. -/
def parseLine (line : List Char) : Option Rule × List ParseNotice :=
  match (fields (· == ',') line).map fun field ↦ String.ofList (strip field) with
  | [kind, action] =>
    match RuleKind.ofToken? kind, Action.ofToken? action with
    | some .final, some action => (some (Rule.ofFinal action), [])
    | _, _ => (none, [])
  | [kind, pattern, action] =>
    match RuleKind.ofToken? kind, Action.ofToken? action with
    | some kind, some action =>
      match Rule.make kind (some pattern) action with
      | .ok rule => (some rule, [])
      | .error cause => (none, [.rejected (String.ofList line) cause])
    | _, _ => (none, [])
  | _ => (none, [])

/-- The rule of a line, if it is one. -/
def parseRule? (line : String) : Option Rule :=
  (parseLine line.toList).1

/-- The sections of a rule file. -/
inductive ConfigSection
  /-- Before the first header. -/
  | initial
  /-- General settings, which are not read. -/
  | general
  /-- The rules. -/
  | rule
  deriving DecidableEq, Repr

/-- What a line is, seen on its own. -/
inductive LineKind
  /-- Empty or a comment. -/
  | skipped
  /-- The header of a section. -/
  | header (name : ConfigSection)
  /-- Anything else. -/
  | content
  deriving DecidableEq, Repr

/-- What a line without blanks at its ends is. -/
def lineKind (line : List Char) : LineKind :=
  if line.isEmpty ∨ line.head? = some '#' then .skipped
  else if line = "[General]".toList then .header .general
  else if line = "[Rule]".toList then .header .rule
  else .content

/-- What has been read of a rule file: the section, the rules and the action so far, and what was
noticed. -/
structure Reading where
  /-- The section that the next line belongs to. -/
  current : ConfigSection := .initial
  /-- The rules and the default action read so far. -/
  set : RuleSet := {}
  /-- What was noticed, in order. -/
  notices : List ParseNotice := []
  deriving DecidableEq, Repr

namespace Reading

/-- What a line of the rule section does. -/
def content (reading : Reading) (number : Nat) (line : List Char) : Reading :=
  match parseLine line with
  | (none, notices) =>
    { reading with
      notices := reading.notices ++ notices ++ [.invalid number (String.ofList line)] }
  | (some rule, notices) =>
    let set :=
      if rule.kind = .final then { reading.set with default := rule.action }
      else { reading.set with rules := reading.set.rules ++ [rule] }
    { reading with set, notices := reading.notices ++ notices }

/-- What a line, given with its number and with its blanks, does. -/
def step (reading : Reading) (number : Nat) (line : List Char) : Reading :=
  match lineKind (strip line) with
  | .skipped => reading
  | .header name => { reading with current := name }
  | .content => if reading.current = .rule then reading.content number (strip line) else reading

/-- Reads lines, the first of which has the given number. -/
def run (reading : Reading) (number : Nat) : List (List Char) → Reading
  | [] => reading
  | line :: rest => (reading.step number line).run (number + 1) rest

end Reading

/-- Reads the text of a rule file. -/
def readConfig (text : String) : Reading :=
  ({} : Reading).run 1 (lines text.toList)

/-- The rule set of a rule file. -/
def parseConfig (text : String) : RuleSet :=
  (readConfig text).set

end SocksRouter
