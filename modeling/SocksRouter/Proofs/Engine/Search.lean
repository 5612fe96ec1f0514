import SocksRouter.Engine.Eager

/-!
# The search for a rule, rule by rule

A search tries the rules in order, each with the address of the host, until one applies or stops it.
`Search` says this with nothing of how the address comes about: which rules are tried, and what the
search comes to. Every list of rules has such a search (`exists_search`), and the engine runs it to
the letter, events and all (`Search.run_firstMatch`).

The events are those of the trials, one after another, behind one inquiry about the address of the
host. The inquiry can stand in front of all the trials, although it is made when the first rule that
needs it is reached: the rules before that one leave no event (`events_trial_of_not_needsAddress`).
-/

namespace SocksRouter

open Text

namespace Deciding

variable {α β : Type} {x : Deciding α} {f : α → Deciding β} {events events' : List Event}

/-- Two operations leave the events of both, and the result of the second. -/
theorem run_bind_ok {a : α} {r : Except Fault β} (h : x.run = ⟨.ok a, events⟩)
    (hf : (f a).run = ⟨r, events'⟩) : (x >>= f).run = ⟨r, events ++ events'⟩ := by
  have hbind : (x >>= f).run = ⟨(f a).run.value, events ++ (f a).run.events⟩ := by
    rw [ExceptT.run_bind, h]
    rfl
  rw [hbind, hf]

/-- Behind an operation that stopped there is nothing. -/
theorem run_bind_error {fault : Fault} (h : x.run = ⟨.error fault, events⟩) :
    (x >>= f).run = ⟨.error fault, events⟩ := by
  rw [ExceptT.run_bind, h]
  exact congrArg (Traced.mk _) (List.append_nil events)

theorem run_map_lift (x : Traced α) (f : α → β) :
    (f <$> (ExceptT.lift x : Deciding α)).run = ⟨.ok (f x.value), x.events⟩ := by
  have hevents : (f <$> (ExceptT.lift x : Deciding α)).run.events = x.events ++ [] ++ [] := rfl
  simp only [List.append_nil] at hevents
  exact congrArg (Traced.mk _) hevents

end Deciding

namespace Engine

variable {engine : Engine} {host : String}

/-! ### Trials -/

theorem resolveHost_value (engine : Engine) (host : String) :
    (resolveHost engine.addresses host).value = engine.addressOf host := by
  simp only [resolveHost, Traced.value_bind, addressOf]
  cases (engine.addresses host).run.value <;> rfl

/-- Trying a rule, the address of the host being known. -/
def trial (engine : Engine) (host : String) (rule : Rule) : Traced (Except Fault Bool) :=
  (applies engine.countries rule (lowered host) (engine.addressOf host)).run

/-- A rule that needs no address is tried in the same way with any. -/
theorem applies_of_not_needsAddress {countries : CountrySource} {rule : Rule}
    (h : rule.kind.needsAddress = false) (name a b : String) :
    applies countries rule name a = applies countries rule name b := by
  unfold applies
  cases hkind : rule.kind with
  | domain | domainSuffix | domainKeyword | final => rfl
  | ipCidr | geoIp => simp [hkind, RuleKind.needsAddress] at h

/-- Trying a rule that needs no address leaves no event. -/
theorem events_trial_of_not_needsAddress {rule : Rule} (h : rule.kind.needsAddress = false) :
    (engine.trial host rule).events = [] := by
  unfold trial applies
  cases hkind : rule.kind with
  | domain | domainSuffix | domainKeyword | final => rfl
  | ipCidr | geoIp => simp [hkind, RuleKind.needsAddress] at h

/-! ### Searches -/

/-- The rules of a list that are tried, one after another, and what that comes to: a rule, none, or
a fault. -/
inductive Search (engine : Engine) (host : String) :
    List Rule → List Rule → Except Fault (Option Rule) → Prop
  /-- There is no rule left. -/
  | exhausted : Search engine host [] [] (.ok none)
  /-- The rule applies. -/
  | found {rule : Rule} {rest : List Rule} (h : (engine.trial host rule).value = .ok true) :
      Search engine host (rule :: rest) [rule] (.ok (some rule))
  /-- The rule stops the search. -/
  | stopped {rule : Rule} {rest : List Rule} {fault : Fault}
      (h : (engine.trial host rule).value = .error fault) :
      Search engine host (rule :: rest) [rule] (.error fault)
  /-- The rule does not apply, and the search goes on. -/
  | passed {rule : Rule} {rest tried : List Rule} {result : Except Fault (Option Rule)}
      (h : (engine.trial host rule).value = .ok false)
      (hrest : Search engine host rest tried result) :
      Search engine host (rule :: rest) (rule :: tried) result

theorem exists_search (engine : Engine) (host : String) (rules : List Rule) :
    ∃ tried result, Search engine host rules tried result := by
  induction rules with
  | nil => exact ⟨[], .ok none, .exhausted⟩
  | cons rule rest ih =>
    obtain ⟨tried, result, hrest⟩ := ih
    rcases htrial : (engine.trial host rule).value with fault | _ | _
    · exact ⟨[rule], .error fault, .stopped htrial⟩
    · exact ⟨rule :: tried, result, .passed htrial hrest⟩
    · exact ⟨[rule], .ok (some rule), .found htrial⟩

/-- A search tries all rules and finds none, or it tries the rules up to one that applies or stops
it. -/
theorem Search.cases {rules tried : List Rule} {result : Except Fault (Option Rule)}
    (h : Search engine host rules tried result) :
    (result = .ok none ∧ tried = rules ∧
        ∀ rule ∈ rules, (engine.trial host rule).value = .ok false) ∨
      ∃ before rule after, rules = before ++ rule :: after ∧ tried = before ++ [rule] ∧
        (∀ earlier ∈ before, (engine.trial host earlier).value = .ok false) ∧
        ((engine.trial host rule).value = .ok true ∧ result = .ok (some rule) ∨
          ∃ fault, (engine.trial host rule).value = .error fault ∧ result = .error fault) := by
  induction h with
  | exhausted => exact .inl ⟨rfl, rfl, by simp⟩
  | @found rule rest htrial =>
    exact .inr ⟨[], rule, rest, rfl, rfl, by simp, .inl ⟨htrial, rfl⟩⟩
  | @stopped rule rest fault htrial =>
    exact .inr ⟨[], rule, rest, rfl, rfl, by simp, .inr ⟨fault, htrial, rfl⟩⟩
  | @passed first rest tried result htrial hrest ih =>
    obtain ⟨hnone, rfl, hall⟩ | ⟨before, rule, after, rfl, rfl, hbefore, hend⟩ := ih
    · exact .inl ⟨hnone, rfl, List.forall_mem_cons.2 ⟨htrial, hall⟩⟩
    · exact .inr ⟨first :: before, rule, after, rfl, rfl, List.forall_mem_cons.2 ⟨htrial, hbefore⟩,
        hend⟩

/-- Searches that come to the same on each rule they try are the same. -/
theorem Search.congr {other : Engine} {rules tried : List Rule}
    {result : Except Fault (Option Rule)} (h : Search engine host rules tried result)
    (hsame : ∀ rule ∈ tried, other.trial host rule = engine.trial host rule) :
    Search other host rules tried result := by
  induction h with
  | exhausted => exact .exhausted
  | found htrial => exact .found (by rw [hsame _ (by simp), htrial])
  | stopped htrial => exact .stopped (by rw [hsame _ (by simp), htrial])
  | passed htrial hrest ih =>
    obtain ⟨hfirst, hothers⟩ := List.forall_mem_cons.1 hsame
    exact .passed (by rw [hfirst, htrial]) (ih hothers)

/-! ### What a search leaves -/

/-- The events of asking for the address, if it is not known and a tried rule needs it. -/
def inquiry (engine : Engine) (host : String) (address : Option String) (tried : List Rule) :
    List Event :=
  if address.isNone && tried.any (·.kind.needsAddress) then
    (resolveHost engine.addresses host).events
  else []

/-- The events of trying rules one after another. -/
def trials (engine : Engine) (host : String) (tried : List Rule) : List Event :=
  tried.flatMap fun rule ↦ (engine.trial host rule).events

/-- The report on the rule that a search has found. -/
def finding : Except Fault (Option Rule) → List Event
  | .ok (some rule) => [.notice (.ruleUsed rule)]
  | .ok none | .error _ => []

/-- What is known of the address behind a rule. -/
def known (engine : Engine) (host : String) (address : Option String) (rule : Rule) :
    Option String :=
  if rule.kind.needsAddress then some (engine.addressOf host) else address

/-- What a search does with a rule when the address is there. -/
def settle (engine : Engine) (host : String) (address : Option String) (rule : Rule)
    (rest : List Rule) : Deciding (Option Rule) := do
  if ← applies engine.countries rule (lowered host) (engine.addressOf host) then
    Deciding.report (.ruleUsed rule)
    return some rule
  else engine.firstMatch host (lowered host) address rest

/-- **One step of the search**: it asks for the address if the rule is the first that needs it, and
settles the rule. -/
theorem run_firstMatch_cons {rule : Rule} {rest : List Rule} {address : Option String}
    (haddress : ∀ a ∈ address, a = engine.addressOf host) {result : Except Fault (Option Rule)}
    {events : List Event}
    (h : (engine.settle host (engine.known host address rule) rule rest).run = ⟨result, events⟩) :
    (engine.firstMatch host (lowered host) address (rule :: rest)).run =
      ⟨result, engine.inquiry host address [rule] ++ events⟩ := by
  rw [firstMatch]
  simp only [inquiry, known, List.any_cons, List.any_nil, Bool.or_false] at h ⊢
  split
  · rename_i hasks
    obtain ⟨hneeds, hunknown⟩ := Bool.and_eq_true_iff.1 hasks
    rw [if_pos hneeds] at h
    rw [if_pos (Bool.and_eq_true_iff.2 ⟨hunknown, hneeds⟩)]
    refine Deciding.run_bind_ok (Deciding.run_map_lift _ some) ?_
    rw [resolveHost_value]
    exact h
  · rename_i hsilent
    rw [if_neg (by rwa [Bool.and_comm])]
    refine Deciding.run_bind_ok (a := address) rfl ?_
    -- The rule does not look at the address, or it is given the one that was kept.
    cases hneeds : rule.kind.needsAddress with
    | false =>
      rw [hneeds, if_neg (by simp)] at h
      rw [applies_of_not_needsAddress hneeds _ _ (engine.addressOf host)]
      exact h
    | true =>
      rw [hneeds, if_pos rfl] at h
      cases address with
      | none => simp [hneeds] at hsilent
      | some a =>
        obtain rfl := haddress a rfl
        exact h

theorem run_applies {rule : Rule} {outcome : Except Fault Bool}
    (h : (engine.trial host rule).value = outcome) :
    (applies engine.countries rule (lowered host) (engine.addressOf host)).run =
      ⟨outcome, (engine.trial host rule).events⟩ := by
  rw [← h]
  rfl

/-- One inquiry does for all rules behind it. -/
theorem inquiry_cons (address : Option String) (rule : Rule) (tried : List Rule) :
    engine.inquiry host address [rule] ++ ((engine.trial host rule).events ++
        engine.inquiry host (engine.known host address rule) tried) =
      engine.inquiry host address (rule :: tried) ++ (engine.trial host rule).events := by
  unfold inquiry known
  cases hneeds : rule.kind.needsAddress with
  | false => simp [hneeds, events_trial_of_not_needsAddress hneeds]
  | true => simp [hneeds]

/-- **The engine runs the search to the letter.** -/
theorem Search.run_firstMatch {rules tried : List Rule} {result : Except Fault (Option Rule)}
    (h : Search engine host rules tried result) {address : Option String}
    (haddress : ∀ a ∈ address, a = engine.addressOf host) :
    (engine.firstMatch host (lowered host) address rules).run =
      ⟨result,
        engine.inquiry host address tried ++ engine.trials host tried ++ finding result⟩ := by
  induction h generalizing address with
  | exhausted =>
    have hevents : engine.inquiry host address [] ++ engine.trials host [] ++ finding (.ok none) =
        [] := by simp [inquiry, trials, finding]
    rw [hevents]
    rfl
  | @found rule rest htrial =>
    have hsettle : (engine.settle host (engine.known host address rule) rule rest).run =
        ⟨.ok (some rule), (engine.trial host rule).events ++ [.notice (.ruleUsed rule)]⟩ :=
      Deciding.run_bind_ok (run_applies htrial) rfl
    rw [run_firstMatch_cons haddress hsettle]
    simp [trials, finding]
  | @stopped rule rest fault htrial =>
    have hsettle : (engine.settle host (engine.known host address rule) rule rest).run =
        ⟨.error fault, (engine.trial host rule).events⟩ :=
      Deciding.run_bind_error (run_applies htrial)
    rw [run_firstMatch_cons haddress hsettle]
    simp [trials, finding]
  | @passed rule rest tried result htrial hrest ih =>
    have hknown : ∀ a ∈ engine.known host address rule, a = engine.addressOf host := by
      unfold known
      split
      · simp
      · exact haddress
    have hsettle : (engine.settle host (engine.known host address rule) rule rest).run =
        ⟨result, (engine.trial host rule).events ++
          (engine.inquiry host (engine.known host address rule) tried ++
            engine.trials host tried ++ finding result)⟩ :=
      Deciding.run_bind_ok (run_applies htrial) (ih hknown)
    have htrials : engine.trials host (rule :: tried) =
        (engine.trial host rule).events ++ engine.trials host tried := List.flatMap_cons
    have hgroup : ∀ a b c d e : List Event,
        a ++ (b ++ (c ++ d ++ e)) = a ++ (b ++ c) ++ (d ++ e) := by simp
    rw [run_firstMatch_cons haddress hsettle, htrials, hgroup, inquiry_cons]
    simp only [List.append_assoc]

/-- The report that ends a decision. -/
def closing (set : RuleSet) : Except Fault (Option Rule) → List Event
  | .ok (some rule) => [.notice (.ruleUsed rule)]
  | .ok none => [.notice (.finalUsed set.default)]
  | .error _ => []

/-- **A decision is the search**, with the final rule where it finds none. -/
theorem Search.run_findRule {tried : List Rule} {result : Except Fault (Option Rule)}
    (h : Search engine host engine.rules.rules tried result) (hrules : engine.rules.rules ≠ []) :
    (engine.findRule host).run =
      ⟨result.map (·.getD engine.rules.finalRule),
        engine.inquiry host none tried ++ engine.trials host tried ++
          closing engine.rules result⟩ := by
  have hsearch : (engine.firstMatch host (lowered host) none engine.rules.rules).run =
      ⟨result, engine.inquiry host none tried ++ engine.trials host tried ++ finding result⟩ :=
    h.run_firstMatch (by simp)
  rw [findRule, if_neg (by simpa using hrules)]
  rcases result with fault | - | rule
  · exact Deciding.run_bind_error hsearch
  · rw [finding, List.append_nil] at hsearch
    exact Deciding.run_bind_ok hsearch rfl
  · refine (Deciding.run_bind_ok hsearch rfl).trans ?_
    exact congrArg (Traced.mk _) (List.append_nil _)

end Engine

end SocksRouter
