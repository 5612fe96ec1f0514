import SocksRouter.Name.Resolver

/-!
# Decisions

Which rule applies to a host. The rules are tried in order and the first that applies decides. The
host is resolved when the first rule that needs an address is reached, at most once; a failure to
resolve or to look up a country makes the rule not apply and does not stop the search. Only a
country code that cannot be put in lower case stops it: one that is neither a text nor bytes. Bytes
can be, but are equal to no text, so they belong to no pattern.

A set without rules sends everything through the forward proxy, whatever its default action.

The addresses of hosts and the countries of addresses come from outside, as functions: a
`Resolver` with its name services gives the first, a `Database` the second.
-/

namespace SocksRouter

open Text

/-- The address of each host, empty if it has none. -/
abbrev AddressSource := String → Deciding String

/-- The country code of an address as the country data hold it, if it has one. -/
abbrev CountrySource := String → Except Fault (Option Datum)

/-- What decides about connections: the action for each host. -/
abbrev Policy := String → Deciding Action

/-- The country data of a database. -/
def Database.source (database : Database) : CountrySource :=
  fun address ↦ (database.country address).mapError .lookup

/-- A rule engine: what it asks about hosts and addresses, and the rules in force. -/
structure Engine where
  /-- Where the addresses of hosts come from. -/
  addresses : AddressSource
  /-- Where the countries of addresses come from. -/
  countries : CountrySource
  /-- The rules in force. -/
  rules : RuleSet := {}

namespace Engine

/-- The lower case of a text. -/
def lowered (text : String) : String :=
  String.ofList (lower text.toList)

/-- Resolves a host for the rules; a failure is reported and leaves no address. -/
def resolveHost (addresses : AddressSource) (host : String) : Traced String := do
  let answer ← (addresses host).run
  let address ← match answer with
    | .ok address => pure address
    | .error cause =>
      Traced.report (.resolveFailed host cause)
      pure ""
  Traced.report (.addressKnown host address)
  return address

/-- Whether an address belongs to the country of a pattern. A code without a lower case cannot be
compared. -/
def matchesCountry (countries : CountrySource) (address pattern : String) : Deciding Bool := do
  if address.isEmpty then return false
  Deciding.emit (.lookup address)
  match countries address with
  | .error cause =>
    Deciding.report (.lookupFailed address cause)
    return false
  | .ok none => return false
  | .ok (some (.text code)) =>
    if lowered code = pattern then
      Deciding.report (.countryMatched code pattern)
      return true
    else return false
  | .ok (some other) =>
    if other.hasLower then return false else throw (.countryCode other.typeWord)

/-- Whether an address lies in the block of a rule. -/
def matchesBlock (rule : Rule) (address : String) : Traced Bool :=
  if !IPv4.isLiteral address then return false
  else match Block.matchText address rule.patternText with
    | .ok answer => return answer
    | .error cause => do
      Traced.report (.ruleSkipped rule cause)
      return false

/-- Whether a rule applies to a host name in lower case with the given address. -/
def applies (countries : CountrySource) (rule : Rule) (name address : String) : Deciding Bool :=
  match rule.kind with
  | .domain => return name = rule.patternText
  | .domainKeyword => return occursIn rule.patternText.toList name.toList
  | .domainSuffix => return rule.patternText.toList.isSuffixOf name.toList
  | .ipCidr => ExceptT.lift (matchesBlock rule address)
  | .geoIp => matchesCountry countries address rule.patternText
  | .final => return false

/-- The first rule that applies. `address` is what the host has been resolved to, if it has. -/
def firstMatch (engine : Engine) (host name : String) (address : Option String) :
    List Rule → Deciding (Option Rule)
  | [] => return none
  | rule :: rest => do
    let address ←
      if rule.kind.needsAddress && address.isNone then
        some <$> ExceptT.lift (resolveHost engine.addresses host)
      else pure address
    if ← applies engine.countries rule name (address.getD "") then
      Deciding.report (.ruleUsed rule)
      return some rule
    else engine.firstMatch host name address rest

/-- The rule that applies to a host. -/
def findRule (engine : Engine) (host : String) : Deciding Rule :=
  if engine.rules.rules.isEmpty then do
    Deciding.report .noRules
    return Rule.ofFinal .proxy
  else do
    match ← engine.firstMatch host (lowered host) none engine.rules.rules with
    | some rule => return rule
    | none =>
      Deciding.report (.finalUsed engine.rules.default)
      return engine.rules.finalRule

/-- What is done with a connection to a host. -/
def decide (engine : Engine) : Policy :=
  fun host ↦ Rule.action <$> engine.findRule host

/-- Whether a connection to a host is meant for the forward proxy. -/
def usesProxy (engine : Engine) (host : String) : Deciding Bool :=
  (fun action ↦ action == .proxy) <$> engine.decide host

end Engine

end SocksRouter
