import SocksRouter.Engine.Decision

/-!
# Decisions, all at once

What a decision is, without saying how it is reached: the host is resolved once, whether a rule
needs it or not, and a rule applies or not as a matter of fact. Nothing is reported and no fault
arises; a country code that is no text belongs to no pattern.
-/

namespace SocksRouter.Engine

open Text

/-- The address of a host, empty where resolving it fails. -/
def addressOf (engine : Engine) (host : String) : String :=
  match (engine.addresses host).run.value with
  | .ok address => address
  | .error _ => ""

/-- Whether a rule applies to a host with the given address. -/
def appliesTo (countries : CountrySource) (host address : String) (rule : Rule) : Bool :=
  let name := lowered host
  let pattern := rule.patternText
  match rule.kind with
  | .domain => name = pattern
  | .domainKeyword => occursIn pattern.toList name.toList
  | .domainSuffix => pattern.toList.isSuffixOf name.toList
  | .ipCidr =>
    match IPv4.parse? address, Block.parse pattern with
    | some ip, .ok block => block.contains ip
    | _, _ => false
  | .geoIp =>
    !address.isEmpty &&
      match countries address with
      | .ok (some (.text code)) => lowered code = pattern
      | _ => false
  | .final => false

/-- The rule for a host: the first that applies, or the final rule. -/
def eagerRule (engine : Engine) (host : String) : Rule :=
  if engine.rules.rules.isEmpty then Rule.ofFinal .proxy
  else
    let address := engine.addressOf host
    let rule := engine.rules.rules.find? (appliesTo engine.countries host address)
    rule.getD engine.rules.finalRule

end SocksRouter.Engine
