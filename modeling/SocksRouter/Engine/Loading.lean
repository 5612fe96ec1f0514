import SocksRouter.Engine.Decision
import SocksRouter.File

/-!
# Putting rules in force

Rules come into force as a whole: a text or a file is read completely before its set replaces the
old one, and a file that cannot be read changes nothing. That is reported, unless what should be its
path is none: this is a fault that is left to the caller. A country database has to be opened before
there is an engine.
-/

namespace SocksRouter

open Text

namespace Engine

/-- Replaces the rules in force. -/
def swap (engine : Engine) (set : RuleSet) : Engine :=
  { engine with rules := set }

/-- Reads rules from a text and puts them in force. -/
def loadText (engine : Engine) (text : String) : Traced Engine := do
  let reading := readConfig text
  reading.notices.forM fun what ↦ Traced.report (.parse what)
  Traced.report (.rulesLoaded reading.set.size reading.set.default)
  return engine.swap reading.set

/-- Reads rules from a file and puts them in force. Also tells whether that worked, or the fault
that it stopped at. -/
def load (engine : Engine) (path : String) (file : FileContent) :
    Traced (Except Fault Bool × Engine) := do
  Traced.report (.fileOpened path)
  match file.readText path with
  | .error .nullInPath => return (.error (.outside ⟨.value, nullMessage⟩), engine)
  | .error cause =>
    Traced.report (.fileFailed cause)
    return (.ok false, engine)
  | .ok text => return (.ok true, ← engine.loadText text)

/-- Reads the rules again when asked to. Nobody waits for that, so a fault is not noticed. -/
def reload (engine : Engine) (path : String) (file : FileContent) : Traced Engine := do
  Traced.report (.reloadAsked path)
  return (← engine.load path file).2

end Engine

/-- Whether rules can be read again on request, which takes a platform with the right signal. -/
def canReload (hasSignal : Bool) : Bool :=
  hasSignal

/-- Reports that there are no country data, and stops with the reason. -/
def failDatabase {α : Type} (cause : DatabaseError) : Traced (Except DatabaseError α) := do
  Traced.report (.databaseFailed cause)
  return .error cause

/-- Opens a country database. -/
def openDatabase (path : String) (file : FileContent) : Traced (Except DatabaseError Database) :=
  if !isPath path then failDatabase (.nullInPath path)
  else match file with
    | .missing cause => failDatabase (.missing path cause)
    | .locked => failDatabase (.locked path)
    | .directory | .failing _ | .bytes _ none => failDatabase (.unreadable path)
    | .bytes _ (some database) =>
      if database.isAbout "City" || database.isAbout "Country" then do
        Traced.report (.databaseOpened database.type path)
        return .ok database
      else failDatabase (.wrongType path database.type)

/-- The engine without rules that looks countries up in a database, and names with a resolver. -/
def Engine.ofDatabase (names : NameService) (database : Database) (resolver : Resolver := {}) :
    Engine :=
  ⟨resolver.resolve names, database.source, {}⟩

/-- The country data that an engine needs; without them there is none. -/
def requireCountries (countries : Option CountrySource) :
    Traced (Except DatabaseError CountrySource) :=
  match countries with
  | none => failDatabase .absent
  | some source => return .ok source

end SocksRouter
