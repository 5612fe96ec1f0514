import Mathlib.Data.List.Basic
import SocksRouter.Proofs.Engine.Search

/-!
# The stages of a resolution

Resolving a name goes through stages: the operating system, the configured name servers together,
each fallback name server. `Resolver.stages` lists them, each with its question and with what comes
of that, and says nothing of how they are gone through. `Search` says what going through a list of
stages comes to: which of them are tried, and with what result. The resolver searches its stages
(`resolveInTurns_searches`), and from that all else follows.

* **The first stage that gives an address ends the search** (`resolve_takes_first_address`). This
  rests on the answers being addresses: a fallback name server that answers with the empty text ends
  the search as well.
* **A stage that fails lets the next one have its turn** (`resolve_gives_or_stops`), whatever it
  fails with, as long as it is a query to name servers. The operating system is let off only when it
  does not know or cannot encode the name; any other failure of it ends the resolution without a
  result (`resolve_stops_at_system`).

The stages have turns of their own, so nothing here rests on an answer being the same twice.
-/

namespace SocksRouter

/-! ### Stages -/

/-- A stage of a resolution: a question, and what comes of it. -/
structure Stage where
  /-- The question that is put. -/
  question : NameQuery
  /-- The first address of the answer, or why there is none. -/
  outcome : Except Fault String

namespace Stage

/-- The operating system is asked. -/
def system (names : NameService) (host : String) : Stage :=
  ⟨.system host, (names.system host).mapError .outside⟩

/-- A list of name servers is asked. An answer without any address counts as a failure. -/
def servers (names : NameService) (nameservers : List String) (host : String) : Stage where
  question := .servers nameservers host
  outcome :=
    match names.servers nameservers host with
    | .error failure => .error (.outside failure)
    | .ok [] => .error .noAddress
    | .ok (address :: _) => .ok address

/-- The stage gives no address. -/
def GivesNone (stage : Stage) : Prop :=
  ∀ address, stage.outcome = .ok address → address = ""

/-- The stage ends the resolution with a fault: it is the operating system that fails, and it fails
otherwise than by not knowing or not being able to encode the name. -/
def Breaks (stage : Stage) (fault : Fault) : Prop :=
  ∃ host failure, stage.question = .system host ∧ stage.outcome = .error (.outside failure) ∧
    failure.kind ≠ .nameLookup ∧ failure.kind ≠ .encoding ∧ fault = .outside failure

/-- What comes of the stage is regular. -/
structure IsRegular (stage : Stage) : Prop where
  /-- An address is not empty. -/
  address_ne : ∀ address, stage.outcome = .ok address → address ≠ ""
  /-- The operating system fails only by not knowing or not being able to encode the name. -/
  system_fails : ∀ host failure, stage.question = .system host →
    stage.outcome = .error (.outside failure) →
      failure.kind = .nameLookup ∨ failure.kind = .encoding

theorem IsRegular.not_breaks {stage : Stage} (h : stage.IsRegular) (fault : Fault) :
    ¬stage.Breaks fault := by
  rintro ⟨host, failure, hquestion, houtcome, hlookup, hencoding, -⟩
  exact (h.system_fails host failure hquestion houtcome).elim hlookup hencoding

/-- A stage that breaks has one fault. -/
theorem Breaks.unique {stage : Stage} {fault fault' : Fault} (h : stage.Breaks fault)
    (h' : stage.Breaks fault') : fault = fault' := by
  obtain ⟨_, failure, -, houtcome, -, -, rfl⟩ := h
  obtain ⟨_, failure', -, houtcome', -, -, rfl⟩ := h'
  exact Except.error.inj (houtcome.symm.trans houtcome')

/-- Only the operating system breaks anything. -/
theorem not_breaks_of_servers {stage : Stage} {nameservers : List String} {host : String}
    (h : stage.question = .servers nameservers host) (fault : Fault) : ¬stage.Breaks fault := by
  rintro ⟨_, _, hquestion, -⟩
  cases h.symm.trans hquestion

theorem givesNone_of_error {stage : Stage} {fault : Fault} (h : stage.outcome = .error fault) :
    stage.GivesNone := by
  intro address haddress
  cases h.symm.trans haddress

theorem givesNone_of_empty {stage : Stage} (h : stage.outcome = .ok "") : stage.GivesNone :=
  fun _ haddress ↦ (Except.ok.inj (h.symm.trans haddress)).symm

end Stage

namespace Resolver

/-- The stages of the fallback name servers. -/
def fallbackStages (turns : Nat → NameService) (host : String) (nameservers : List String) :
    List Stage :=
  nameservers.mapIdx fun n nameserver ↦ Stage.servers (turns n) [nameserver] host

/-- The stages behind the operating system. -/
def serverStages (resolver : Resolver) (turns : Nat → NameService) (host : String) : List Stage :=
  (if resolver.nameservers = [] then []
    else [Stage.servers (turns 1) resolver.nameservers host]) ++
    fallbackStages (fun n ↦ turns (n + 2)) host resolver.fallbacks

/-- The stages of the resolution of a name: the operating system if it is to be asked, the
configured name servers if there are any, and one stage for each fallback name server. -/
def stages (resolver : Resolver) (turns : Nat → NameService) (host : String) : List Stage :=
  (if resolver.useSystem then [Stage.system (turns 0) host] else []) ++
    resolver.serverStages turns host

/-! ### Searches -/

/-- The stages of a list that are tried, one after another, and what that comes to. -/
inductive Search : List Stage → List Stage → Except Fault String → Prop
  /-- There is no stage left. -/
  | exhausted : Search [] [] (.ok "")
  /-- The stage answers. -/
  | found {stage : Stage} {rest : List Stage} {address : String}
      (h : stage.outcome = .ok address) : Search (stage :: rest) [stage] (.ok address)
  /-- The stage ends the resolution. -/
  | stopped {stage : Stage} {rest : List Stage} {fault : Fault} (h : stage.Breaks fault) :
      Search (stage :: rest) [stage] (.error fault)
  /-- The stage gives no address, and the search goes on. -/
  | passed {stage : Stage} {rest tried : List Stage} {result : Except Fault String}
      (h : stage.GivesNone) (hgoes : ∀ fault, ¬stage.Breaks fault)
      (hrest : Search rest tried result) : Search (stage :: rest) (stage :: tried) result

namespace Search

variable {stages tried : List Stage} {result : Except Fault String}

/-- The stages that are tried are the first ones, and only a stage that answers or breaks is the
last of them before its time. -/
theorem exists_later (h : Search stages tried result) :
    ∃ later, stages = tried ++ later ∧ (later ≠ [] → ∃ stage ∈ tried.getLast?,
      (∃ address, stage.outcome = .ok address) ∨ ∃ fault, stage.Breaks fault) := by
  induction h with
  | exhausted => exact ⟨[], rfl, fun hlater ↦ absurd rfl hlater⟩
  | @found stage rest address h => exact ⟨rest, rfl, fun _ ↦ ⟨stage, rfl, .inl ⟨address, h⟩⟩⟩
  | @stopped stage rest fault h => exact ⟨rest, rfl, fun _ ↦ ⟨stage, rfl, .inr ⟨fault, h⟩⟩⟩
  | passed _ _ _ ih =>
    obtain ⟨later, rfl, hlast⟩ := ih
    refine ⟨later, rfl, fun hlater ↦ ?_⟩
    obtain ⟨stage, hstage, hends⟩ := hlast hlater
    refine ⟨stage, ?_, hends⟩
    rw [List.getLast?_cons, Option.mem_def.1 hstage]
    rfl

/-- A search that stops has come to a stage that breaks. -/
theorem exists_breaks (h : Search stages tried result) {fault : Fault}
    (hresult : result = .error fault) : ∃ stage ∈ stages, stage.Breaks fault := by
  induction h with
  | exhausted => cases hresult
  | found => cases hresult
  | @stopped stage rest fault' h =>
    obtain rfl := Except.error.inj hresult
    exact ⟨stage, List.mem_cons_self, h⟩
  | passed _ _ _ ih =>
    obtain ⟨stage, hstage, hbreaks⟩ := ih hresult
    exact ⟨stage, List.mem_cons_of_mem _ hstage, hbreaks⟩

/-- A first stage that breaks stops the search. -/
theorem eq_error_of_breaks {stage : Stage} {rest : List Stage} {fault : Fault}
    (h : Search (stage :: rest) tried result) (hbreaks : stage.Breaks fault) :
    result = .error fault := by
  cases h with
  | found h =>
    obtain ⟨_, _, -, houtcome, -⟩ := hbreaks
    cases h.symm.trans houtcome
  | stopped h => rw [h.unique hbreaks]
  | passed _ hgoes _ => exact absurd hbreaks (hgoes fault)

/-- **Where the stages are regular, the first that gives an address counts**, and the stages up to
it are tried. -/
theorem takes_first (h : Search stages tried result)
    (hregular : ∀ stage ∈ stages, stage.IsRegular) :
    (∃ before stage after address, stages = before ++ stage :: after ∧
        (∀ earlier ∈ before, ∃ fault, earlier.outcome = .error fault) ∧
        stage.outcome = .ok address ∧ result = .ok address ∧ tried = before ++ [stage]) ∨
      (∀ stage ∈ stages, ∃ fault, stage.outcome = .error fault) ∧ result = .ok "" ∧
        tried = stages := by
  induction h with
  | exhausted => exact .inr ⟨by simp, rfl, rfl⟩
  | @found stage rest address h => exact .inl ⟨[], stage, rest, address, rfl, by simp, h, rfl, rfl⟩
  | stopped h => exact absurd h ((hregular _ List.mem_cons_self).not_breaks _)
  | @passed first rest tried result hnone _ _ ih =>
    obtain ⟨hfirst, hothers⟩ := List.forall_mem_cons.1 hregular
    have hfails : ∃ fault, first.outcome = .error fault := by
      rcases houtcome : first.outcome with fault | address
      · exact ⟨fault, rfl⟩
      · exact absurd (hnone address houtcome) (hfirst.address_ne address houtcome)
    obtain ⟨before, stage, after, address, rfl, hbefore, houtcome, hresult, rfl⟩ |
      ⟨hall, hresult, rfl⟩ := ih hothers
    · exact .inl ⟨first :: before, stage, after, address, rfl,
        List.forall_mem_cons.2 ⟨hfails, hbefore⟩, houtcome, hresult, rfl⟩
    · exact .inr ⟨List.forall_mem_cons.2 ⟨hfails, hall⟩, hresult, rfl⟩

end Search

/-! ### The resolver searches -/

/-- A search through the stages comes to the result, and its questions are those among the
events. -/
def Searches (stages : List Stage) (result : Except Fault String) (events : List Event) : Prop :=
  ∃ tried, Search stages tried result ∧ queries events = tried.map Stage.question

variable {turns : Nat → NameService} {host : String}

theorem fallbackStages_cons (turns : Nat → NameService) (host nameserver : String)
    (rest : List String) :
    fallbackStages turns host (nameserver :: rest) =
      Stage.servers (turns 0) [nameserver] host ::
        fallbackStages (fun n ↦ turns (n + 1)) host rest :=
  List.mapIdx_cons

/-- Asking name servers is a stage. -/
theorem askServers_eq (names : NameService) {nameservers : List String} (h : nameservers ≠ [])
    (host : String) :
    askServers names nameservers host =
      ⟨(Stage.servers names nameservers host).outcome.map some,
        [.query (.servers nameservers host)]⟩ := by
  rw [askServers, if_neg (by simpa using h), Stage.servers]
  rcases names.servers nameservers host with failure | - | ⟨address, more⟩ <;> rfl

theorem searches_askEach (turns : Nat → NameService) (host : String) (nameservers : List String) :
    Searches (fallbackStages turns host nameservers)
      (.ok ((askEach turns host nameservers).value.getD ""))
      (askEach turns host nameservers).events := by
  induction nameservers generalizing turns with
  | nil => exact ⟨[], .exhausted, rfl⟩
  | cons nameserver rest ih =>
    rw [fallbackStages_cons, askEach, askServers_eq _ (List.cons_ne_nil _ _)]
    simp only [Traced.value_bind, Traced.events_bind]
    rcases houtcome : (Stage.servers (turns 0) [nameserver] host).outcome with cause | address
    · obtain ⟨tried, hsearch, hqueries⟩ := ih fun n ↦ turns (n + 1)
      refine ⟨_, .passed (Stage.givesNone_of_error houtcome)
        (Stage.not_breaks_of_servers rfl) hsearch, ?_⟩
      rw [List.map_cons, ← hqueries]
      rfl
    · exact ⟨_, .found houtcome, rfl⟩

/-! ### One stage before the others -/

/-- Asking a stage has given `answer`, and `asked` are the events of it. What is no address lets the
search go on. -/
structure Gives (stage : Stage) (answer : Option String) (asked : List Event) : Prop where
  queries_eq : queries asked = [stage.question]
  found : isAddress answer = true → stage.outcome = .ok (answer.getD "")
  goes : isAddress answer = false → stage.GivesNone ∧ ∀ fault, ¬stage.Breaks fault

theorem getD_of_not_isAddress {answer : Option String} (h : isAddress answer = false) :
    answer.getD "" = "" := by
  cases answer with
  | none => rfl
  | some address => simpa [isAddress] using h

/-- A stage that answers has given its address, and goes on if that is empty. -/
theorem gives_of_ok {stage : Stage} {address : String} {asked : List Event}
    (houtcome : stage.outcome = .ok address) (hqueries : queries asked = [stage.question]) :
    Gives stage (some address) asked := by
  refine ⟨hqueries, fun _ ↦ houtcome, fun hempty ↦ ⟨?_, ?_⟩⟩
  · exact Stage.givesNone_of_empty (houtcome.trans (congrArg _ (getD_of_not_isAddress hempty)))
  · rintro fault ⟨_, _, -, hfails, -⟩
    cases houtcome.symm.trans hfails

/-- A stage that fails without breaking has given nothing. -/
theorem gives_of_error {stage : Stage} {cause : Fault} {asked : List Event}
    (houtcome : stage.outcome = .error cause) (hgoes : ∀ fault, ¬stage.Breaks fault)
    (hqueries : queries asked = [stage.question]) : Gives stage none asked :=
  ⟨hqueries, nofun, fun _ ↦ ⟨Stage.givesNone_of_error houtcome, hgoes⟩⟩

/-- **One step of the search**: the stage is asked, and the others if it gives no address. -/
theorem Gives.searches {stage : Stage} {answer : Option String} {asked events : List Event}
    {rest : List Stage} {result : Except Fault String} (h : Gives stage answer asked)
    (hrest : Searches rest result events) :
    Searches (stage :: rest) (if isAddress answer then .ok (answer.getD "") else result)
      (asked ++ if isAddress answer then [] else events) := by
  cases haddress : isAddress answer with
  | true => exact ⟨[stage], .found (h.found haddress), by simp [h.queries_eq]⟩
  | false =>
    obtain ⟨tried, hsearch, hqueries⟩ := hrest
    obtain ⟨hnone, hgoes⟩ := h.goes haddress
    exact ⟨stage :: tried, .passed hnone hgoes hsearch, by simp [h.queries_eq, hqueries]⟩

/-- The configured name servers are one stage. -/
theorem gives_askConfigured {resolver : Resolver} (h : resolver.nameservers ≠ [])
    (names : NameService) (host : String) :
    Gives (Stage.servers names resolver.nameservers host)
      (resolver.askConfigured names host).value (resolver.askConfigured names host).events := by
  rw [askConfigured, askServers_eq names h]
  simp only [Traced.value_bind, Traced.events_bind]
  rcases houtcome : (Stage.servers names resolver.nameservers host).outcome with cause | address
  · exact gives_of_error houtcome (Stage.not_breaks_of_servers rfl) rfl
  · exact gives_of_ok houtcome rfl

/-- The operating system is one stage, which may break. -/
theorem askSystem_cases (names : NameService) (host : String) :
    (∃ answer, (askSystem names host).run.value = .ok answer ∧
        Gives (Stage.system names host) answer (askSystem names host).run.events) ∨
      ∃ fault, (Stage.system names host).Breaks fault ∧
        (askSystem names host).run = ⟨.error fault, [.query (.system host)]⟩ := by
  rcases hanswer : names.system host with failure | address
  · have houtcome : (Stage.system names host).outcome = .error (.outside failure) :=
      congrArg (·.mapError Fault.outside) hanswer
    by_cases hsurvives : survivesSystem failure = true
    · have hrun : (askSystem names host).run = ⟨.ok none,
          [.query (.system host), .notice (.systemNamesFailed host (.outside failure))]⟩ := by
        unfold askSystem
        simp only [hanswer, if_pos hsurvives]
        rfl
      have hkind : failure.kind = .nameLookup ∨ failure.kind = .encoding := by
        simpa [survivesSystem] using hsurvives
      refine .inl ⟨none, congrArg Traced.value hrun, ?_⟩
      rw [hrun]
      refine gives_of_error houtcome ?_ rfl
      rintro fault ⟨_, failure', -, houtcome', hlookup, hencoding, -⟩
      obtain rfl := Fault.outside.inj (Except.error.inj (houtcome.symm.trans houtcome'))
      exact hkind.elim hlookup hencoding
    · have hkind : failure.kind ≠ .nameLookup ∧ failure.kind ≠ .encoding := by
        simpa [survivesSystem] using hsurvives
      refine .inr ⟨.outside failure, ⟨host, failure, rfl, houtcome, hkind.1, hkind.2, rfl⟩, ?_⟩
      unfold askSystem
      simp only [hanswer, if_neg hsurvives]
      rfl
  · have hrun : (askSystem names host).run = ⟨.ok (some address), [.query (.system host)]⟩ := by
      unfold askSystem
      simp only [hanswer]
      rfl
    refine .inl ⟨some address, congrArg Traced.value hrun, ?_⟩
    rw [hrun]
    exact gives_of_ok (congrArg (·.mapError Fault.outside) hanswer) rfl

/-! ### All stages -/

/-- The last part of a resolution. -/
def askFallbacks (resolver : Resolver) (turns : Nat → NameService) (host : String) :
    Traced String := do
  let fallback ← askEach (fun n ↦ turns (n + 2)) host resolver.fallbacks
  if isAddress fallback then return fallback.getD ""
  Traced.report (.unresolved host)
  return ""

theorem searches_askFallbacks (resolver : Resolver) (turns : Nat → NameService) (host : String) :
    Searches (fallbackStages (fun n ↦ turns (n + 2)) host resolver.fallbacks)
      (.ok (resolver.askFallbacks turns host).value)
      (resolver.askFallbacks turns host).events := by
  obtain ⟨tried, hsearch, hqueries⟩ :=
    searches_askEach (fun n ↦ turns (n + 2)) host resolver.fallbacks
  rw [askFallbacks]
  simp only [Traced.value_bind, Traced.events_bind]
  cases haddress : isAddress
      (askEach (fun n ↦ turns (n + 2)) host resolver.fallbacks).value with
  | true => exact ⟨tried, hsearch, by simpa using hqueries⟩
  | false =>
    rw [getD_of_not_isAddress haddress] at hsearch
    have hreport : queries (Traced.report (.unresolved host)).events = [] := rfl
    exact ⟨tried, hsearch, by simpa [hreport] using hqueries⟩

/-- Going through the stages behind the operating system. -/
theorem searches_askNameservers (resolver : Resolver) (turns : Nat → NameService) (host : String) :
    Searches (resolver.serverStages turns host) (.ok (resolver.askNameservers turns host).value)
      (resolver.askNameservers turns host).events := by
  have hfallbacks := resolver.searches_askFallbacks turns host
  have hsteps : resolver.askNameservers turns host =
      resolver.askConfigured (turns 1) host >>= fun configured ↦
        if isAddress configured then pure (configured.getD "")
        else resolver.askFallbacks turns host := rfl
  rw [hsteps, serverStages]
  simp only [Traced.value_bind, Traced.events_bind]
  by_cases hnameservers : resolver.nameservers = []
  · have hnobody : resolver.askConfigured (turns 1) host = ⟨none, []⟩ := by
      rw [askConfigured, askServers, if_pos (by simpa using hnameservers)]
      rfl
    rw [hnobody, if_pos hnameservers]
    exact hfallbacks
  · have hsearches := (gives_askConfigured hnameservers (turns 1) host).searches hfallbacks
    rw [if_neg hnameservers]
    cases haddress : isAddress (resolver.askConfigured (turns 1) host).value with
    | true =>
      rw [haddress] at hsearches
      exact hsearches
    | false =>
      rw [haddress] at hsearches
      exact hsearches

/-- **The resolver searches its stages.** -/
theorem resolveInTurns_searches (resolver : Resolver) (turns : Nat → NameService) {host : String}
    (hliteral : IPv4.isLiteral host = false) (hname : host ≠ "") :
    Searches (resolver.stages turns host) (resolver.resolveInTurns turns host).run.value
      (resolver.resolveInTurns turns host).run.events := by
  have hservers := resolver.searches_askNameservers turns host
  have hbehind : ∀ answer : Option String,
      (if isAddress answer then pure (answer.getD "")
        else ExceptT.lift (resolver.askNameservers turns host) : Deciding String).run =
      ⟨if isAddress answer then .ok (answer.getD "")
        else .ok (resolver.askNameservers turns host).value,
        if isAddress answer then [] else (resolver.askNameservers turns host).events⟩ := by
    intro answer
    cases isAddress answer with
    | true => rfl
    | false => exact congrArg (Traced.mk _) (List.append_nil _)
  rw [resolveInTurns, if_neg (by simp [hliteral]), if_neg (by simpa using hname), stages]
  cases resolver.useSystem with
  | true =>
    simp only [if_true]
    obtain ⟨answer, hanswer, hgives⟩ | ⟨fault, hbreaks, hrun⟩ := askSystem_cases (turns 0) host
    · have hrun : (askSystem (turns 0) host).run =
          ⟨.ok answer, (askSystem (turns 0) host).run.events⟩ := by rw [← hanswer]
      rw [Deciding.run_bind_ok hrun (hbehind answer)]
      exact hgives.searches hservers
    · rw [Deciding.run_bind_error hrun]
      exact ⟨_, .stopped hbreaks, rfl⟩
  | false =>
    simp only [Bool.false_eq_true, if_false]
    have hrun : (pure none : Deciding (Option String)).run = ⟨.ok none, []⟩ := rfl
    rw [Deciding.run_bind_ok hrun (hbehind none)]
    exact hservers

/-! ### What a resolution comes to -/

/-- **The first stage that gives an address ends the resolution.** Where the stages are regular, the
questions are those of the stages up to the first that gives an address, each put once and in that
order, and that address is the result. If no stage gives one, all of them have been asked, and the
result is empty. -/
theorem resolve_takes_first_address (resolver : Resolver) (turns : Nat → NameService)
    {host : String} (hliteral : IPv4.isLiteral host = false) (hname : host ≠ "")
    (hregular : ∀ stage ∈ resolver.stages turns host, stage.IsRegular) :
    let run := (resolver.resolveInTurns turns host).run
    (∃ before stage after address, resolver.stages turns host = before ++ stage :: after ∧
        (∀ earlier ∈ before, ∃ fault, earlier.outcome = .error fault) ∧
        stage.outcome = .ok address ∧ run.value = .ok address ∧
        queries run.events = (before ++ [stage]).map Stage.question) ∨
      (∀ stage ∈ resolver.stages turns host, ∃ fault, stage.outcome = .error fault) ∧
        run.value = .ok "" ∧
        queries run.events = (resolver.stages turns host).map Stage.question := by
  intro run
  obtain ⟨tried, hsearch, hqueries⟩ := resolver.resolveInTurns_searches turns hliteral hname
  obtain ⟨before, stage, after, address, hstages, hbefore, houtcome, hresult, rfl⟩ |
    ⟨hall, hresult, rfl⟩ := hsearch.takes_first hregular
  · exact .inl ⟨before, stage, after, address, hstages, hbefore, houtcome, hresult, hqueries⟩
  · exact .inr ⟨hall, hresult, hqueries⟩

/-- The same name server is asked twice and answers the second time. -/
theorem resolve_takes_second_answer :
    let turns : Nat → NameService := fun n ↦
      ⟨fun _ ↦ .error ⟨.nameLookup, "Name or service not known"⟩,
        fun _ _ ↦ if n = 1 then .ok [] else .ok ["198.51.100.7", "198.51.100.8"]⟩
    let resolver : Resolver := ⟨["192.0.2.53"], ["192.0.2.53", "192.0.2.54"], true⟩
    let run := (resolver.resolveInTurns turns "example.com").run
    (∀ stage ∈ resolver.stages turns "example.com", stage.IsRegular) ∧
      run.value = .ok "198.51.100.7" ∧
      queries run.events = [.system "example.com", .servers ["192.0.2.53"] "example.com",
        .servers ["192.0.2.53"] "example.com"] := by
  intro turns resolver run
  let unknown : Stage :=
    ⟨.system "example.com", .error (.outside ⟨.nameLookup, "Name or service not known"⟩)⟩
  let empty : Stage := ⟨.servers ["192.0.2.53"] "example.com", .error .noAddress⟩
  let second : Stage := ⟨.servers ["192.0.2.53"] "example.com", .ok "198.51.100.7"⟩
  let unused : Stage := ⟨.servers ["192.0.2.54"] "example.com", .ok "198.51.100.7"⟩
  have hstages : resolver.stages turns "example.com" = [unknown, empty, second, unused] := rfl
  have hregular : ∀ stage ∈ resolver.stages turns "example.com", stage.IsRegular := by
    rw [hstages]
    simp only [List.forall_mem_cons]
    refine ⟨⟨nofun, ?_⟩, ⟨nofun, nofun⟩, ⟨?_, nofun⟩, ⟨?_, nofun⟩, by simp⟩
    · rintro _ _ - ⟨⟩
      exact .inl rfl
    all_goals
      rintro _ ⟨⟩
      decide
  refine ⟨hregular, ?_⟩
  obtain ⟨before, stage, after, address, heq, hbefore, houtcome, hvalue, hqueries⟩ | ⟨hall, -⟩ :=
    resolver.resolve_takes_first_address turns (by decide +kernel) (by decide) hregular
  · rw [hstages] at heq
    -- The stages in front are the two that give nothing.
    rcases before with - | ⟨first, - | ⟨other, - | ⟨third, more⟩⟩⟩
    · obtain ⟨rfl, -⟩ := List.cons.inj heq
      cases houtcome
    · obtain ⟨rfl, -⟩ := List.cons.inj (List.cons.inj heq).2
      cases houtcome
    · simp only [List.cons_append, List.nil_append, List.cons.injEq] at heq
      obtain ⟨hfirst, hother, rfl, -⟩ := heq
      rw [← hfirst, ← hother] at hqueries
      exact ⟨hvalue.trans houtcome.symm, hqueries⟩
    · obtain ⟨rfl, -⟩ := List.cons.inj (List.cons.inj (List.cons.inj heq).2).2
      obtain ⟨fault, hfault⟩ := hbefore second (by simp)
      cases hfault
  · obtain ⟨fault, hfault⟩ := hall second (by simp [hstages])
    cases hfault

/-- Only the first stage can break. -/
theorem stages_eq_cons_of_breaks {resolver : Resolver} {stage : Stage} {fault : Fault}
    (hstage : stage ∈ resolver.stages turns host) (hbreaks : stage.Breaks fault) :
    resolver.stages turns host = stage :: resolver.serverStages turns host := by
  have hservers : stage ∉ resolver.serverStages turns host := by
    intro hmem
    rcases List.mem_append.1 hmem with hconfigured | hfallback
    · split at hconfigured
      · cases hconfigured
      · obtain rfl := List.mem_singleton.1 hconfigured
        exact Stage.not_breaks_of_servers rfl fault hbreaks
    · obtain ⟨n, hn, rfl⟩ := List.mem_mapIdx.1 hfallback
      exact Stage.not_breaks_of_servers rfl fault hbreaks
  rw [stages] at hstage ⊢
  cases hsystem : resolver.useSystem with
  | true =>
    simp only [hsystem, if_true, List.singleton_append, List.mem_cons] at hstage ⊢
    rw [hstage.resolve_right hservers]
  | false =>
    simp only [hsystem, Bool.false_eq_true, if_false, List.nil_append] at hstage
    exact absurd hstage hservers

/-- **A resolution gives a text unless the operating system breaks it**, and nothing else keeps a
stage from its turn. A host that is an address, or has no name, is its own result. For any other the
result is a text if no stage breaks, whatever the others fail with; if one breaks, which only the
operating system can, the resolution ends with its fault. The stages are asked in order, and the one
that is asked last, with others left, has given an answer or broken. -/
theorem resolve_gives_or_stops (resolver : Resolver) (turns : Nat → NameService) (host : String) :
    let run := (resolver.resolveInTurns turns host).run
    (IPv4.isLiteral host = true ∨ host = "" → run = ⟨.ok host, []⟩) ∧
      (IPv4.isLiteral host = false → host ≠ "" →
        ((∃ address, run.value = .ok address) ↔
          ∀ stage ∈ resolver.stages turns host, ∀ fault, ¬stage.Breaks fault) ∧
        (∀ fault, run.value = .error fault ↔
          ∃ stage ∈ resolver.stages turns host, stage.Breaks fault) ∧
        ∃ tried later, resolver.stages turns host = tried ++ later ∧
          queries run.events = tried.map Stage.question ∧
          (later ≠ [] → ∃ stage ∈ tried.getLast?,
            (∃ address, stage.outcome = .ok address) ∨ ∃ fault, stage.Breaks fault)) := by
  intro run
  refine ⟨?_, fun hliteral hname ↦ ?_⟩
  · rintro (hliteral | rfl)
    · exact resolver.resolveInTurns_of_isLiteral turns hliteral
    · rfl
  obtain ⟨tried, hsearch, hqueries⟩ := resolver.resolveInTurns_searches turns hliteral hname
  have herror : ∀ fault, run.value = .error fault ↔
      ∃ stage ∈ resolver.stages turns host, stage.Breaks fault := by
    refine fun fault ↦ ⟨hsearch.exists_breaks, ?_⟩
    rintro ⟨stage, hstage, hbreaks⟩
    rw [stages_eq_cons_of_breaks hstage hbreaks] at hsearch
    exact hsearch.eq_error_of_breaks hbreaks
  refine ⟨?_, herror, ?_⟩
  · constructor
    · rintro ⟨address, haddress⟩ stage hstage fault hbreaks
      cases haddress.symm.trans ((herror fault).2 ⟨stage, hstage, hbreaks⟩)
    · intro hgoes
      rcases hvalue : run.value with fault | address
      · obtain ⟨stage, hstage, hbreaks⟩ := (herror fault).1 hvalue
        exact absurd hbreaks (hgoes stage hstage fault)
      · exact ⟨address, rfl⟩
  · obtain ⟨later, hstages, hlast⟩ := hsearch.exists_later
    exact ⟨tried, later, hstages, hqueries, hlast⟩

/-- Everybody fails, each in another way, and everybody is asked. -/
theorem resolve_gives_behind_failures :
    let names : NameService :=
      ⟨fun _ ↦ .error ⟨.encoding, "label too long"⟩, fun nameservers _ ↦
        if nameservers = ["192.0.2.54"] then .error ⟨.timeout, "timed out"⟩
        else if nameservers = ["192.0.2.55"] then .ok [] else .error ⟨.system, "no route to host"⟩⟩
    let resolver : Resolver := ⟨["192.0.2.53"], ["192.0.2.54", "192.0.2.55"], true⟩
    let stages := resolver.stages (fun _ ↦ names) "example.com"
    (∀ stage ∈ stages, ∀ fault, ¬stage.Breaks fault) ∧
      ∃ address, (resolver.resolve names "example.com").run.value = .ok address ∧
        queries (resolver.resolve names "example.com").run.events = stages.map Stage.question := by
  intro names resolver stages
  obtain ⟨-, hname⟩ := resolver.resolve_gives_or_stops (fun _ ↦ names) "example.com"
  obtain ⟨hgives, -, tried, later, hstages, hqueries, hlast⟩ :=
    hname (by decide +kernel) (by decide)
  let unencodable : Stage :=
    ⟨.system "example.com", .error (.outside ⟨.encoding, "label too long"⟩)⟩
  have hall : stages = [unencodable,
      ⟨.servers ["192.0.2.53"] "example.com", .error (.outside ⟨.system, "no route to host"⟩)⟩,
      ⟨.servers ["192.0.2.54"] "example.com", .error (.outside ⟨.timeout, "timed out"⟩)⟩,
      ⟨.servers ["192.0.2.55"] "example.com", .error .noAddress⟩] := rfl
  have hgoes : ∀ stage ∈ stages, ∀ fault, ¬stage.Breaks fault := by
    rw [hall]
    simp only [List.forall_mem_cons]
    have hsystem : ∀ fault, ¬unencodable.Breaks fault := by
      rintro fault ⟨_, _, -, ⟨⟩, -, hencoding, -⟩
      exact hencoding rfl
    exact ⟨hsystem, Stage.not_breaks_of_servers rfl, Stage.not_breaks_of_servers rfl,
      Stage.not_breaks_of_servers rfl, by simp⟩
  have hfails : ∀ stage ∈ stages, ∀ address, stage.outcome ≠ .ok address := by
    rw [hall]
    simp only [List.forall_mem_cons]
    exact ⟨nofun, nofun, nofun, nofun, by simp⟩
  obtain ⟨address, hvalue⟩ := hgives.2 hgoes
  -- No stage answers or breaks, so none is left out.
  have hnone : later = [] := by
    by_contra hlater
    obtain ⟨stage, hstage, hends⟩ := hlast hlater
    have hmem : stage ∈ stages := by
      rw [show stages = tried ++ later from hstages]
      exact List.mem_append_left _ (List.mem_of_mem_getLast? hstage)
    rcases hends with ⟨address, haddress⟩ | ⟨fault, hbreaks⟩
    · exact hfails stage hmem address haddress
    · exact hgoes stage hmem fault hbreaks
  rw [hnone, List.append_nil] at hstages
  exact ⟨hgoes, address, hvalue, by rw [show stages = tried from hstages]; exact hqueries⟩

/-- The operating system refuses a name with a null character in it, and the name servers that know
it are not asked. -/
theorem resolve_stops_at_system :
    let names : NameService :=
      ⟨fun _ ↦ .error ⟨.value, "embedded null character"⟩, fun _ _ ↦ .ok ["198.51.100.7"]⟩
    let resolver : Resolver := ⟨["192.0.2.53"], ["192.0.2.54"], true⟩
    let run := (resolver.resolve names "a\x00b.example").run
    (∀ address, run.value ≠ .ok address) ∧ queries run.events = [.system "a\x00b.example"] := by
  intro names resolver run
  have hvalue : run.value = .error (.outside ⟨.value, "embedded null character"⟩) := by
    decide +kernel
  refine ⟨fun address haddress ↦ ?_, by decide +kernel⟩
  cases haddress.symm.trans hvalue

end Resolver

end SocksRouter
