import SocksRouter.Engine.Loading
import SocksRouter.Proofs.Engine.Decision

/-!
# Where a decision stops

A decision gives a rule whatever the rules are, whatever comes of resolving the host and whatever
comes of looking up a country, with one exception: the code of a country may be a value that cannot
be put in lower case, and then it is not compared with the pattern of a rule. Texts and bytes can be
put in lower case; a truth value, a number, a row and a table cannot (`Incomparable`). `StopsAt`
says when the search comes to such a code, and this is exactly when there is no decision
(`findRule_gives_or_stops`).

A country database may hold such a code and be opened all the same, so the exception is met in
practice (`findRule_stops_at_number`).
-/

namespace SocksRouter

namespace Deciding

variable {α β : Type}

theorem value_map_of_error {x : Deciding α} {fault : Fault} (h : x.run.value = .error fault)
    (f : α → β) : (f <$> x).run.value = .error fault := by
  rw [ExceptT.run] at h ⊢
  simp only [Functor.map, ExceptT.map, ExceptT.mk, Traced.value_bind, h, Traced.value_pure]

end Deciding

namespace Engine

variable {engine : Engine} {host : String}

/-- The search comes to a rule that is to be compared with a code that is neither a text nor bytes,
and no rule before it applies. -/
def StopsAt (engine : Engine) (host : String) (code : Datum) : Prop :=
  ∃ before rule after, engine.rules.rules = before ++ rule :: after ∧
    (∀ earlier ∈ before, ¬Applies engine.countries host (engine.addressOf host) earlier) ∧
    Incomparable engine.countries (engine.addressOf host) rule code

/-- A rule that a set can give: one of its rules or the final one. Without rules it is the one that
sends everything through the forward proxy. -/
def Gives (set : RuleSet) (rule : Rule) : Prop :=
  if set.rules = [] then rule = Rule.ofFinal .proxy else rule ∈ set.rules ∨ rule = set.finalRule

theorem RuleFor.gives {rule : Rule} (h : RuleFor engine host rule) : Gives engine.rules rule := by
  unfold Gives
  cases h with
  | noRules h => rw [if_pos h]
  | first h =>
    rw [if_neg (by simp [h])]
    exact .inl (by simp [h])
  | last h =>
    rw [if_neg h]
    exact .inr rfl

/-- A rule that stops its trial stops the search, unless one before it does or applies. -/
theorem Search.exists_error {before : List Rule} {rule : Rule} {after tried : List Rule}
    {result : Except Fault (Option Rule)} {fault : Fault}
    (h : Search engine host (before ++ rule :: after) tried result)
    (hbefore : ∀ earlier ∈ before, (engine.trial host earlier).value ≠ .ok true)
    (hrule : (engine.trial host rule).value = .error fault) :
    ∃ cause, result = .error cause := by
  induction before generalizing tried with
  | nil =>
    cases h with
    | found htrial => exact absurd (htrial.symm.trans hrule) (by simp)
    | stopped htrial => exact ⟨_, rfl⟩
    | passed htrial => exact absurd (htrial.symm.trans hrule) (by simp)
  | cons earlier before ih =>
    obtain ⟨hearlier, hbefore⟩ := List.forall_mem_cons.1 hbefore
    cases h with
    | found htrial => exact absurd htrial hearlier
    | stopped htrial => exact ⟨_, rfl⟩
    | passed htrial hrest => exact ih hrest hbefore

/-- Where a search stops there is no rule. -/
theorem StopsAt.findRule_ne_ok {code : Datum} (h : StopsAt engine host code) (rule : Rule) :
    (engine.findRule host).run.value ≠ .ok rule := by
  obtain ⟨before, stopping, after, hlist, hbefore, hcode⟩ := h
  obtain ⟨tried, result, hsearch⟩ := exists_search engine host engine.rules.rules
  have hvalue := congrArg Traced.value (hsearch.run_findRule (by simp [hlist]))
  have hpass : ∀ earlier ∈ before, (engine.trial host earlier).value ≠ .ok true :=
    fun earlier hearlier htrial ↦
      hbefore earlier hearlier ((applies_iff_of_trial htrial).1 rfl)
  rw [hlist] at hsearch
  obtain ⟨cause, rfl⟩ := hsearch.exists_error hpass (trial_of_incomparable hcode)
  rw [hvalue]
  exact nofun

/-- **A decision gives a rule, unless it comes to a country code that is neither a text nor bytes.**
The rule is the one for the host, and it is one that the rules in force have to give. Such a code is
refused with the word for its type. -/
theorem findRule_gives_or_stops (engine : Engine) (host : String) :
    (∃ rule, (engine.findRule host).run.value = .ok rule ∧
        (engine.decide host).run.value = .ok rule.action ∧
        RuleFor engine host rule ∧ Gives engine.rules rule ∧
        ∀ code, ¬StopsAt engine host code) ∨
      ∃ code, StopsAt engine host code ∧
        (engine.findRule host).run.value = .error (.countryCode code.typeWord) ∧
        (engine.decide host).run.value = .error (.countryCode code.typeWord) := by
  obtain ⟨rule, hfind, hrule⟩ | ⟨before, rule, after, code, hlist, hbefore, hcode, hfind⟩ :=
    engine.findRule_cases host
  · exact .inl ⟨rule, hfind, Deciding.value_map hfind Rule.action, hrule, hrule.gives,
      fun code hstops ↦ hstops.findRule_ne_ok rule hfind⟩
  · exact .inr ⟨code, ⟨before, rule, after, hlist, hbefore, hcode⟩, hfind,
      Deciding.value_map_of_error hfind Rule.action⟩

/-- A code of bytes does not stop a decision, nor is it the code of a rule that spells the same. -/
example :
    let engine : Engine :=
      ⟨fun _ ↦ pure "10.0.0.1", fun _ ↦ .ok (some (.bytes [0x75, 0x73])),
        ⟨[⟨.geoIp, some "us", .reject⟩], .direct⟩⟩
    (engine.findRule "example.org").run.value = .ok (Rule.ofFinal .direct) := by
  decide +kernel

/-- A database whose code of a country is a number is opened, and a rule about countries then leaves
a host of that country without a decision. -/
theorem findRule_stops_at_number :
    let record : Datum := .table [("country", .table [("iso_code", .number 5)])]
    let database : Database := { networks := [(⟨0x0A000000, 32, 8⟩, record)] }
    let engine := (Engine.ofDatabase .unknown database).swap
      ⟨[⟨.geoIp, some "us", .reject⟩], .direct⟩
    (∀ content, (openDatabase "geo.mmdb" (.bytes content database)).value = .ok database) ∧
      (∀ rule, (engine.findRule "10.0.0.1").run.value ≠ .ok rule) ∧
      ∀ action, (engine.decide "10.0.0.1").run.value ≠ .ok action := by
  intro record database engine
  have hfind : (engine.findRule "10.0.0.1").run.value = .error (.countryCode "int") := by
    decide +kernel
  have habout : (database.isAbout "City" || database.isAbout "Country") = true := by
    decide +kernel
  refine ⟨fun content ↦ ?_, fun rule hrule ↦ ?_, fun action haction ↦ ?_⟩
  · rw [openDatabase, if_neg (by decide)]
    simp only [habout, if_true]
    rfl
  · rw [hfind] at hrule
    contradiction
  · rw [show (engine.decide "10.0.0.1").run.value = .error (.countryCode "int") from
      Deciding.value_map_of_error hfind Rule.action] at haction
    contradiction

end Engine

end SocksRouter
