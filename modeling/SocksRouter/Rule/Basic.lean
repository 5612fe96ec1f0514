import SocksRouter.Text.Lowercase
import SocksRouter.Text.Quoted

/-!
# Rules

A rule pairs a condition on the destination of a connection with an action. The conditions compare
the host name, or the address it resolves to, with a pattern; the final rule has no pattern and
applies to everything.

A pattern is never empty and is kept in lower case. `Rule.make` is the only way from given parts to
a rule, and `Rule.line` is the rule as a line of a rule file.
-/

namespace SocksRouter

open Text

/-- What a rule compares with its pattern. -/
inductive RuleKind
  /-- The host is the pattern. -/
  | domain
  /-- The host ends in the pattern. -/
  | domainSuffix
  /-- The pattern occurs in the host. -/
  | domainKeyword
  /-- The address lies in the block. -/
  | ipCidr
  /-- The address belongs to the country. -/
  | geoIp
  /-- Nothing: the rule of last resort. -/
  | final
  deriving DecidableEq, Repr

namespace RuleKind

/-- All kinds of rule. -/
def all : List RuleKind :=
  [domain, domainSuffix, domainKeyword, ipCidr, geoIp, final]

/-- The word for the kind in a rule file. -/
def token : RuleKind → String
  | domain => "DOMAIN"
  | domainSuffix => "DOMAIN-SUFFIX"
  | domainKeyword => "DOMAIN-KEYWORD"
  | ipCidr => "IP-CIDR"
  | geoIp => "GEOIP"
  | final => "FINAL"

/-- The kind a word stands for; the spelling has to be exact. -/
def ofToken? (word : String) : Option RuleKind :=
  all.find? fun kind ↦ kind.token = word

/-- Whether rules of the kind look at the address of the host. -/
def needsAddress : RuleKind → Bool
  | ipCidr | geoIp => true
  | _ => false

theorem ofToken?_token (kind : RuleKind) : ofToken? kind.token = some kind := by
  cases kind <;> decide

end RuleKind

/-- What is done with a connection. -/
inductive Action
  /-- It goes straight to its destination. -/
  | direct
  /-- It goes through the forward proxy. -/
  | proxy
  /-- It is refused. -/
  | reject
  deriving DecidableEq, Repr

namespace Action

/-- All actions. -/
def all : List Action :=
  [direct, proxy, reject]

/-- The word for the action in a rule file. -/
def token : Action → String
  | direct => "DIRECT"
  | proxy => "Proxy"
  | reject => "REJECT"

/-- The action a word stands for; the spelling has to be exact. -/
def ofToken? (word : String) : Option Action :=
  all.find? fun action ↦ action.token = word

theorem ofToken?_token (action : Action) : ofToken? action.token = some action := by
  cases action <;> decide

end Action

/-- A routing rule. The final rule has no pattern. -/
structure Rule where
  /-- What is compared. -/
  kind : RuleKind
  /-- What it is compared with, in lower case. -/
  pattern : Option String
  /-- What is done on a match. -/
  action : Action
  deriving DecidableEq, Repr

/-- Why a kind and a pattern make no rule. -/
inductive RuleError
  /-- The final rule was given a pattern. -/
  | patternOnFinal (pattern : String)
  /-- Another rule was given none, or an empty one. -/
  | noPattern (kind : RuleKind)
  deriving DecidableEq, Repr

/-- The wording of a rule error. -/
def RuleError.message : RuleError → String
  | .patternOnFinal pattern => "FINAL rule takes no pattern, got " ++ quote pattern
  | .noPattern kind => kind.token ++ " rule requires a pattern"

namespace Rule

/-- The rule of last resort. -/
def ofFinal (action : Action) : Rule :=
  ⟨.final, none, action⟩

/-- Builds a rule from its parts. -/
def make (kind : RuleKind) (pattern : Option String) (action : Action) : Except RuleError Rule :=
  match kind, pattern with
  | .final, none => .ok ⟨.final, none, action⟩
  | .final, some p => .error (.patternOnFinal p)
  | kind, none => .error (.noPattern kind)
  | kind, some p =>
    if p.isEmpty then .error (.noPattern kind)
    else .ok ⟨kind, some (String.ofList (lower p.toList)), action⟩

/-- The pattern as text, empty for the final rule. -/
def patternText (rule : Rule) : String :=
  rule.pattern.getD ""

/-- The rule as messages describe it. -/
def description (rule : Rule) : String :=
  rule.action.token ++ " " ++ rule.kind.token ++ " " ++ rule.patternText

/-- The rule as a line of a rule file. -/
def line (rule : Rule) : String :=
  match rule.pattern with
  | none => rule.kind.token ++ "," ++ rule.action.token
  | some p => rule.kind.token ++ "," ++ p ++ "," ++ rule.action.token

end Rule

end SocksRouter
