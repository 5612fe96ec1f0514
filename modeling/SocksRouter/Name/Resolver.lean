import SocksRouter.Log.Trace

/-!
# Resolving host names

A host name is resolved in stages: the operating system, then the configured name servers together,
then the fallback name servers one at a time. The first stage that gives an address ends the search.
An IPv4 address is its own answer and nobody is asked; the empty name has none.

The operating system may fail to know or to encode a name, and the search goes on; any other failure
of it ends the search. A query to name servers may fail in any way.

Every stage has a turn of its own, with the name services as they are then: `turns 0` is for the
operating system, `turns 1` for the configured name servers, and the turns from 2 on are for the
fallback name servers. So a question that is put again may be answered in another way.
-/

namespace SocksRouter

/-- How host names are resolved. -/
structure Resolver where
  /-- The name servers that are asked together. -/
  nameservers : List String := ["1.1.1.1", "8.8.8.8", "9.9.9.9"]
  /-- The name servers that are asked one at a time. -/
  fallbacks : List String := ["1.1.1.1", "8.8.8.8", "9.9.9.9"]
  /-- Whether the operating system is asked first. -/
  useSystem : Bool := true
  deriving DecidableEq, Repr

/-- Operations that leave events and may stop at a fault. -/
abbrev Deciding := ExceptT Fault Traced

namespace Deciding

/-- Reports something. -/
def report (what : Notice) : Deciding Unit :=
  ExceptT.lift (Traced.report what)

/-- Records an event. -/
def emit (event : Event) : Deciding Unit :=
  ExceptT.lift (Traced.emit event)

end Deciding

namespace Resolver

/-- Whether the search goes on after this failure of the operating system. -/
def survivesSystem (failure : Failure) : Bool :=
  failure.kind = .nameLookup ∨ failure.kind = .encoding

/-- Asks the operating system for an address. -/
def askSystem (names : NameService) (host : String) : Deciding (Option String) := do
  Deciding.emit (.query (.system host))
  match names.system host with
  | .ok address => return some address
  | .error failure =>
    if survivesSystem failure then
      Deciding.report (.systemNamesFailed host (.outside failure))
      return none
    else throw (.outside failure)

/-- Asks a list of name servers for an address and takes the first one. Nobody is asked when the
list is empty. -/
def askServers (names : NameService) (nameservers : List String) (host : String) :
    Traced (Except Fault (Option String)) :=
  if nameservers.isEmpty then pure (.ok none)
  else do
    Traced.emit (.query (.servers nameservers host))
    match names.servers nameservers host with
    | .error failure => return .error (.outside failure)
    | .ok [] => return .error .noAddress
    | .ok (address :: _) => return .ok (some address)

/-- Asks the configured name servers. -/
def askConfigured (resolver : Resolver) (names : NameService) (host : String) :
    Traced (Option String) := do
  match ← askServers names resolver.nameservers host with
  | .ok answer => return answer
  | .error cause =>
    Traced.report (.serversFailed host cause)
    return none

/-- Asks name servers one at a time, each in its turn, until one answers. -/
def askEach (turns : Nat → NameService) (host : String) : List String → Traced (Option String)
  | [] => return none
  | nameserver :: rest => do
    match ← askServers (turns 0) [nameserver] host with
    | .ok answer => return answer
    | .error cause =>
      Traced.report (.fallbackFailed nameserver host cause)
      askEach (fun n ↦ turns (n + 1)) host rest

/-- Whether a stage gave an address: an answer that is not empty. -/
def isAddress (answer : Option String) : Bool :=
  answer.any fun address ↦ !address.isEmpty

/-- The stages behind the operating system. -/
def askNameservers (resolver : Resolver) (turns : Nat → NameService) (host : String) :
    Traced String := do
  let configured ← resolver.askConfigured (turns 1) host
  if isAddress configured then return configured.getD ""
  let fallback ← askEach (fun n ↦ turns (n + 2)) host resolver.fallbacks
  if isAddress fallback then return fallback.getD ""
  Traced.report (.unresolved host)
  return ""

/-- The address of a host, where every stage has its turn; empty if the host has none. -/
def resolveInTurns (resolver : Resolver) (turns : Nat → NameService) (host : String) :
    Deciding String := do
  if IPv4.isLiteral host then return host
  if host.isEmpty then return ""
  let answer ← if resolver.useSystem then askSystem (turns 0) host else pure none
  if isAddress answer then return answer.getD ""
  ExceptT.lift (resolver.askNameservers turns host)

/-- A host that is an address is its own answer, and nobody is asked. -/
theorem resolveInTurns_of_isLiteral (resolver : Resolver) (turns : Nat → NameService)
    {host : String} (h : IPv4.isLiteral host = true) :
    (resolver.resolveInTurns turns host).run = ⟨.ok host, []⟩ := by
  rw [resolveInTurns, if_pos h]
  rfl

/-- The address of a host; empty if it has none. -/
def resolve (resolver : Resolver) (names : NameService) (host : String) : Deciding String :=
  resolver.resolveInTurns (fun _ ↦ names) host

end Resolver

end SocksRouter
