import SocksRouter.Rule.Basic

/-!
# Rule sets

A rule set is an ordered list of rules, none of them final, and the action of the final rule. The
first rule that applies wins, so the order matters. `RuleSet.dump` writes the set as a rule file.
-/

namespace SocksRouter

/-- An ordered list of rules and the action for everything else. -/
structure RuleSet where
  /-- The rules, first to last. -/
  rules : List Rule := []
  /-- The action where no rule applies. -/
  default : Action := .proxy
  deriving DecidableEq, Repr

/-- Why a list of rules makes no rule set. -/
inductive RuleSetError
  /-- A final rule stands in the list. -/
  | finalInList
  deriving DecidableEq, Repr

/-- The wording of a rule set error. -/
def RuleSetError.message : RuleSetError → String
  | .finalInList => "FINAL rules are stored as default_action, not in the ordered list"

namespace RuleSet

/-- Builds a rule set; a final rule has no place in the list. -/
def make (rules : List Rule) (default : Action) : Except RuleSetError RuleSet :=
  if rules.any fun rule ↦ rule.kind = .final then .error .finalInList else .ok ⟨rules, default⟩

/-- The number of rules, the final one not counted. -/
def size (set : RuleSet) : Nat :=
  set.rules.length

/-- The rule of last resort. -/
def finalRule (set : RuleSet) : Rule :=
  Rule.ofFinal set.default

/-- The lines of the rule file that holds exactly this set. -/
def dumpLines (set : RuleSet) : List String :=
  "[Rule]" :: set.rules.map Rule.line ++ [set.finalRule.line]

/-- The set as the text of a rule file. -/
def dump (set : RuleSet) : String :=
  "\n".intercalate set.dumpLines ++ "\n"

end RuleSet

end SocksRouter
