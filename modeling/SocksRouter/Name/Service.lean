import SocksRouter.Failure

/-!
# Name services

Where addresses of names come from: the name service of the operating system, and queries to name
servers, which answer with a list of addresses. Both may fail. Here they are functions, so an answer
depends on the question alone.
-/

namespace SocksRouter

/-- A question to a name service. -/
inductive NameQuery
  /-- A question to the operating system. -/
  | system (host : String)
  /-- A question for the addresses of a host to a list of name servers. -/
  | servers (nameservers : List String) (host : String)
  deriving DecidableEq, Repr

/-- The answers of the name services. -/
structure NameService where
  /-- The answer of the operating system. -/
  system : String → Except Failure String
  /-- The addresses that a list of name servers gives for a host. -/
  servers : List String → String → Except Failure (List String)

/-- The name services where no name is known. -/
def NameService.unknown : NameService where
  system _ := .error ⟨.nameLookup, "Name or service not known"⟩
  servers _ _ := .error ⟨.noNameserver, "no answer"⟩

end SocksRouter
