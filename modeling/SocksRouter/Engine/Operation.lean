import SocksRouter.Engine.Loading

/-!
# An engine in use

What can be asked of an engine, as data: to put rules in force, from a text, from a file or as they
are, and to decide about hosts. An operation gives an answer and leaves an engine, and `Engine.run`
is what a sequence of operations comes to.

A decision may be left to a worker. It goes by the rules that are in force when the worker starts
it, so it stands in a sequence at the place where that happens. Workers change nothing about the
engine they share, and neither does sending them home.
-/

namespace SocksRouter.Engine

/-- What can be asked of an engine. -/
inductive Operation
  /-- To read rules from a text. -/
  | loadText (text : String)
  /-- To read rules from a file. -/
  | load (path : String) (file : FileContent)
  /-- To read rules from a file again, by the signal for it. -/
  | reload (path : String) (file : FileContent)
  /-- To put other rules in force. -/
  | swap (set : RuleSet)
  /-- To find the rule for a host. -/
  | findRule (host : String)
  /-- To decide about a host. -/
  | decide (host : String)
  /-- To have a worker decide about a host. -/
  | decideLater (host : String)
  /-- To send the workers home. -/
  | close

/-- What an engine answers. -/
inductive Answer
  /-- Nothing. -/
  | done
  /-- Whether a file was read, or the fault that this stopped at. -/
  | loaded (outcome : Except Fault Bool)
  /-- A set of rules: the one that was read, or the one that was replaced. -/
  | rules (set : RuleSet)
  /-- The rule for a host, or why there is none. -/
  | rule (outcome : Except Fault Rule)
  /-- The action for a host, or why there is none. -/
  | action (outcome : Except Fault Action)

/-- Performs an operation: the answer, and the engine afterwards. -/
def perform (engine : Engine) : Operation → Traced (Answer × Engine)
  | .loadText text => do
    let engine ← engine.loadText text
    return (.rules engine.rules, engine)
  | .load path file => do
    let (outcome, engine) ← engine.load path file
    return (.loaded outcome, engine)
  | .reload path file => return (.done, ← engine.reload path file)
  | .swap set => return (.rules engine.rules, engine.swap set)
  | .findRule host => return (.rule (← (engine.findRule host).run), engine)
  | .decide host | .decideLater host => return (.action (← (engine.decide host).run), engine)
  | .close => return (.done, engine)

/-- Performs operations one after the other: the answers, each with its events, and the engine in
the end. -/
def run (engine : Engine) : List Operation → List (Traced Answer) × Engine
  | [] => ([], engine)
  | operation :: rest =>
    let performed := engine.perform operation
    let (answers, engine) := performed.value.2.run rest
    (⟨performed.value.1, performed.events⟩ :: answers, engine)

end SocksRouter.Engine
