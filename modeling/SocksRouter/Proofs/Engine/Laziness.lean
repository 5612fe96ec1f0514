import SocksRouter.Proofs.Engine.Decision

/-!
# What a decision asks, and what it says

A decision that gives a rule has tried the rules up to the place of that rule and no others. What it
leaves follows from their kinds alone (`IsAccount`):

* The source of addresses is asked once if one of them needs an address, and otherwise not at all.
  It makes no difference which source that is, as long as its answer is the same: so the question is
  put with the host as it is written, and a failure is an answer like any other.
* The country of the address is looked up once for each of them that is about a country, if there is
  an address.
* The last report is the verdict on the host, which names the rule, and no other report is one.

The `Search` of the decision carries this: its events are those of one inquiry and of the trials, so
what is true of each trial (`events_trial`) is true of all of them (`events_trials`).

A `Resolver` reports on its own work, but no verdict (`withoutVerdict_resolve`), and for a host that
is an address it asks nobody (`resolve_of_isLiteral`).
-/

namespace SocksRouter

open Text

/-! ### The wording of a verdict -/

namespace Notice

/-- How a notice about the rule that decided begins. -/
def verdictMark : String := "[acl] use rule: "

/-- The notice is about the rule that decided, going by its wording. -/
def IsVerdict (what : Notice) : Prop :=
  verdictMark.toList <+: what.message.toList

/-- A notice that begins in another way is about something else. -/
theorem not_isVerdict {what : Notice} {front : String} (rest : String)
    (hmessage : what.message = front ++ rest)
    (hfront : ¬front.toList <+: verdictMark.toList ∧ ¬verdictMark.toList <+: front.toList) :
    ¬what.IsVerdict := by
  intro hverdict
  have hbegins : front.toList <+: what.message.toList := by
    rw [hmessage, String.toList_append]
    exact List.prefix_append _ _
  rcases List.prefix_or_prefix_of_prefix hbegins hverdict with hshort | hlong
  · exact hfront.1 hshort
  · exact hfront.2 hlong

end Notice

/-- Reports are notices and nothing else. -/
theorem events_map_notice (said : List Notice) :
    queries (said.map .notice) = [] ∧ lookups (said.map .notice) = [] ∧
      notices (said.map .notice) = said := by
  refine ⟨?_, ?_, ?_⟩
  · simp [queries]
  · simp [lookups]
  · simp [notices, List.filterMap_map]

/-- No report among the events is a verdict. -/
def WithoutVerdict (events : List Event) : Prop :=
  ∀ what ∈ notices events, ¬what.IsVerdict

namespace WithoutVerdict

variable {events events' : List Event}

@[simp] theorem nil : WithoutVerdict [] :=
  fun _ h ↦ absurd h List.not_mem_nil

theorem append (h : WithoutVerdict events) (h' : WithoutVerdict events') :
    WithoutVerdict (events ++ events') := by
  intro what hwhat
  rw [notices_append] at hwhat
  exact (List.mem_append.1 hwhat).elim (h what) (h' what)

theorem map_notice {said : List Notice} (h : ∀ what ∈ said, ¬what.IsVerdict) :
    WithoutVerdict (said.map .notice) := by
  rw [WithoutVerdict, (events_map_notice said).2.2]
  exact h

/-- A single report that begins in another way than a verdict. -/
theorem report {what : Notice} (front rest : String)
    (hmessage : what.message = front ++ rest)
    (hfront : ¬front.toList <+: Notice.verdictMark.toList ∧
      ¬Notice.verdictMark.toList <+: front.toList) :
    WithoutVerdict (Traced.report what).events :=
  map_notice fun _ hwhat ↦
    List.mem_singleton.1 hwhat ▸ Notice.not_isVerdict rest hmessage hfront

theorem bind {α β : Type} {x : Traced α} {f : α → Traced β} (h : WithoutVerdict x.events)
    (hf : ∀ a, WithoutVerdict (f a).events) : WithoutVerdict (x >>= f).events :=
  h.append (hf x.value)

theorem run_bind {α β : Type} {x : Deciding α} {f : α → Deciding β}
    (h : WithoutVerdict x.run.events) (hf : ∀ a, WithoutVerdict (f a).run.events) :
    WithoutVerdict (x >>= f).run.events := by
  rw [ExceptT.run_bind]
  refine h.bind fun answer ↦ ?_
  cases answer with
  | ok a => exact hf a
  | error fault => exact .nil

end WithoutVerdict

namespace Engine

variable {engine : Engine} {host : String}

/-! ### The events of a trial -/

/-- Looking up a country, and the reports on that. -/
theorem exists_events_matchesCountry (countries : CountrySource) {address : String}
    (haddress : address ≠ "") (pattern : String) :
    ∃ said : List Notice, WithoutVerdict (said.map .notice) ∧
      (matchesCountry countries address pattern).run.events =
        [.lookup address] ++ said.map .notice := by
  have hfailed : ∀ cause, WithoutVerdict [.notice (.lookupFailed address cause)] := fun cause ↦
    .report "[acl] Country lookup failed for " (address ++ (": " ++ cause.message))
      (by simp only [← String.append_assoc]; rfl) (by decide)
  have hmatched : ∀ code, WithoutVerdict [.notice (.countryMatched code pattern)] := fun code ↦
    .report "[acl] country " (code ++ (", " ++ pattern))
      (by simp only [← String.append_assoc]; rfl) (by decide)
  rw [matchesCountry, if_neg (by simpa using haddress)]
  rcases countries address with cause | - | code
  · exact ⟨[.lookupFailed address cause], hfailed cause, rfl⟩
  · exact ⟨[], .nil, rfl⟩
  · cases code with
    | text code =>
      by_cases heq : lowered code = pattern
      · refine ⟨[.countryMatched code pattern], hmatched code, ?_⟩
        simp only [if_pos heq]
        rfl
      · refine ⟨[], .nil, ?_⟩
        simp only [if_neg heq]
        rfl
    | nothing | truth | number | decimal | noDecimal | bytes | row | table =>
      exact ⟨[], .nil, rfl⟩

/-- Reading a block leaves reports only. -/
theorem exists_events_matchesBlock (rule : Rule) (address : String) :
    ∃ said : List Notice, WithoutVerdict (said.map .notice) ∧
      (matchesBlock rule address).events = said.map .notice := by
  have hskipped : ∀ cause, WithoutVerdict [.notice (.ruleSkipped rule cause)] := fun cause ↦
    .report "[acl] Skipping rule " (rule.line ++ (": " ++ cause.message))
      (by simp only [← String.append_assoc]; rfl) (by decide)
  rw [matchesBlock]
  split
  · exact ⟨[], .nil, rfl⟩
  split
  · exact ⟨[], .nil, rfl⟩
  · rename_i cause _
    exact ⟨[.ruleSkipped rule cause], hskipped cause, rfl⟩

/-- **What trying a rule leaves**: a look-up if the rule is about a country and there is an address,
and reports that are no verdicts. -/
theorem events_trial (engine : Engine) (host : String) (rule : Rule) :
    queries (engine.trial host rule).events = [] ∧
      lookups (engine.trial host rule).events =
        (if rule.kind = .geoIp ∧ engine.addressOf host ≠ "" then [engine.addressOf host] else []) ∧
      WithoutVerdict (engine.trial host rule).events := by
  cases hneeds : rule.kind.needsAddress with
  | false =>
    have hkind : rule.kind ≠ .geoIp := by
      rintro hkind
      rw [hkind] at hneeds
      contradiction
    rw [events_trial_of_not_needsAddress hneeds, if_neg (fun h ↦ hkind h.1)]
    exact ⟨rfl, rfl, .nil⟩
  | true =>
    unfold trial applies
    cases hkind : rule.kind with
    | domain | domainSuffix | domainKeyword | final =>
      simp [hkind, RuleKind.needsAddress] at hneeds
    | ipCidr =>
      obtain ⟨said, hsaid, hevents⟩ := exists_events_matchesBlock rule (engine.addressOf host)
      obtain ⟨hqueries, hlookups, -⟩ := events_map_notice said
      have hrun : (ExceptT.lift (matchesBlock rule (engine.addressOf host)) :
          Deciding Bool).run.events = said.map .notice := (List.append_nil _).trans hevents
      rw [hrun, if_neg (by simp)]
      exact ⟨hqueries, hlookups, hsaid⟩
    | geoIp =>
      by_cases haddress : engine.addressOf host = ""
      · simp [haddress, matchesCountry, queries, lookups]
      obtain ⟨said, hsaid, hevents⟩ :=
        exists_events_matchesCountry engine.countries haddress rule.patternText
      obtain ⟨hqueries, hlookups, -⟩ := events_map_notice said
      simp only [hevents]
      rw [queries_append, lookups_append, hqueries, hlookups, if_pos ⟨trivial, haddress⟩]
      exact ⟨rfl, rfl, hsaid⟩

/-- **What trying rules one after another leaves**: no question for an address, a look-up for each
rule about a country if there is an address, and reports that are no verdicts. -/
theorem events_trials (engine : Engine) (host : String) (tried : List Rule) :
    queries (engine.trials host tried) = [] ∧
      lookups (engine.trials host tried) =
        (if engine.addressOf host = "" then []
          else (tried.filter (·.kind = .geoIp)).map fun _ ↦ engine.addressOf host) ∧
      WithoutVerdict (engine.trials host tried) := by
  induction tried with
  | nil => simp [trials, queries, lookups]
  | cons rule tried ih =>
    obtain ⟨hqueries, hlookups, hverdict⟩ := ih
    obtain ⟨hqueries', hlookups', hverdict'⟩ := engine.events_trial host rule
    have htrials : engine.trials host (rule :: tried) =
        (engine.trial host rule).events ++ engine.trials host tried := List.flatMap_cons
    rw [htrials, queries_append, lookups_append, hqueries, hqueries', hlookups, hlookups']
    refine ⟨rfl, ?_, hverdict'.append hverdict⟩
    by_cases haddress : engine.addressOf host = ""
    · simp [haddress]
    · by_cases hkind : rule.kind = .geoIp <;> simp [haddress, hkind]

/-! ### Asking for the address -/

/-- The reports on the answer to the question for an address. -/
def answered (host : String) : Except Fault String → List Notice
  | .ok address => [.addressKnown host address]
  | .error cause => [.resolveFailed host cause, .addressKnown host ""]

theorem events_resolveHost (addresses : AddressSource) (host : String) :
    (resolveHost addresses host).events =
      (addresses host).run.events ++ (answered host (addresses host).run.value).map .notice := by
  simp only [resolveHost, Traced.events_bind]
  cases (addresses host).run.value <;> rfl

theorem withoutVerdict_answered (host : String) (answer : Except Fault String) :
    WithoutVerdict ((answered host answer).map .notice) := by
  have hknown : ∀ address, WithoutVerdict [.notice (.addressKnown host address)] := fun address ↦
    .report "[acl] host: " (host ++ (" " ++ address))
      (by simp only [← String.append_assoc]; rfl) (by decide)
  have hfailed : ∀ cause, WithoutVerdict [.notice (.resolveFailed host cause)] := fun cause ↦
    .report "[acl] Resolving " (host ++ (" failed: " ++ cause.message))
      (by simp only [← String.append_assoc]; rfl) (by decide)
  cases answer with
  | ok address => exact hknown address
  | error cause => exact (hfailed cause).append (hknown "")

/-- Two sources of addresses that give one answer for a host make no difference to a rule. -/
theorem trial_congr {source : AddressSource} {rule : Rule}
    (h : rule.kind.needsAddress = true →
      (source host).run.value = (engine.addresses host).run.value) :
    ({ engine with addresses := source } : Engine).trial host rule = engine.trial host rule := by
  unfold trial
  cases hneeds : rule.kind.needsAddress with
  | false => rw [applies_of_not_needsAddress hneeds]
  | true => simp only [addressOf, h hneeds]

/-- The reports on the address of the host, if a tried rule needs it. -/
def addressReports (engine : Engine) (host : String) (tried : List Rule) : List Notice :=
  if tried.any (·.kind.needsAddress) then answered host (engine.addresses host).run.value else []

theorem withoutVerdict_addressReports (engine : Engine) (host : String) (tried : List Rule) :
    WithoutVerdict ((engine.addressReports host tried).map .notice) := by
  unfold addressReports
  split
  · exact withoutVerdict_answered host _
  · exact .nil

/-- What the engine does besides asking its source of addresses. -/
def ownEvents (engine : Engine) (host : String) (tried : List Rule)
    (result : Except Fault (Option Rule)) : List Event :=
  (engine.addressReports host tried).map .notice ++ engine.trials host tried ++
    closing engine.rules result

/-- **The source of addresses is asked once, in front of everything else, or not at all**, and
nothing but its answer matters. -/
theorem Search.run_findRule_of_source {tried : List Rule} {result : Except Fault (Option Rule)}
    (h : Search engine host engine.rules.rules tried result) (hrules : engine.rules.rules ≠ [])
    {source : AddressSource}
    (hsource : tried.any (·.kind.needsAddress) = true →
      (source host).run.value = (engine.addresses host).run.value) :
    (({ engine with addresses := source } : Engine).findRule host).run =
      ⟨result.map (·.getD engine.rules.finalRule),
        (if tried.any (·.kind.needsAddress) then (source host).run.events else []) ++
          engine.ownEvents host tried result⟩ := by
  have hsame : ∀ rule ∈ tried, ({ engine with addresses := source } : Engine).trial host rule =
      engine.trial host rule :=
    fun rule hrule ↦ trial_congr fun hneeds ↦ hsource (List.any_eq_true.2 ⟨rule, hrule, hneeds⟩)
  have htrials : ({ engine with addresses := source } : Engine).trials host tried =
      engine.trials host tried :=
    List.flatMap_congr fun rule hrule ↦ congrArg Traced.events (hsame rule hrule)
  rw [(h.congr hsame).run_findRule hrules, htrials]
  unfold inquiry ownEvents addressReports
  cases hneeds : tried.any (·.kind.needsAddress) with
  | false => simp
  | true => simp [events_resolveHost, hsource hneeds]

/-! ### The account of a decision -/

/-- How a verdict names its rule: by what it does, or as the final one. -/
def verdictText (rule : Rule) : String :=
  if rule.kind = .final then "final " ++ rule.action.token else rule.description

theorem message_finalUsed (set : RuleSet) :
    (Notice.finalUsed set.default).message = Notice.verdictMark ++ verdictText set.finalRule := by
  rw [RuleSet.finalRule]
  cases set.default <;> rfl

/-- The place of the rule that a decision gives, counted from zero. The final rule takes the place
of the last one. -/
def IsPlace (set : RuleSet) (rule : Rule) (place : Nat) : Prop :=
  set.rules[place]? = some rule ∧ rule ∉ set.rules.take place ∧ rule.kind ≠ .final ∨
    rule = set.finalRule ∧ place + 1 = set.rules.length

/-- What a decision leaves that gives `rule` when the rules `tried` have been tried, where `own` is
what the engine leaves itself. -/
structure IsAccount (engine : Engine) (host : String) (rule : Rule) (tried : List Rule)
    (own : List Event) : Prop where
  /-- With any source of addresses that gives the same answer for the host, the rule is the same,
  and the source is asked once, for the host as it is written, in front of everything else. If no
  tried rule needs an address, it is not asked, and its answer does not matter. -/
  asks : ∀ source : AddressSource,
    (tried.any (·.kind.needsAddress) = true →
      (source host).run.value = (engine.addresses host).run.value) →
    (({ engine with addresses := source } : Engine).findRule host).run =
      ⟨.ok rule,
        (if tried.any (·.kind.needsAddress) then (source host).run.events else []) ++ own⟩
  /-- The engine itself asks nobody for an address. -/
  queries_eq : queries own = []
  /-- It looks up the address of the host once for each tried rule about a country, if there is an
  address. -/
  lookups_eq : lookups own =
    if engine.addressOf host = "" then []
    else (tried.filter (·.kind = .geoIp)).map fun _ ↦ engine.addressOf host
  /-- Behind the reports on the address come the trials in the order of the rules, and the last
  thing is the verdict. It names the rule, and no report before it is a verdict. -/
  verdict : ∃ (reports : List Notice) (last : Notice),
    own = reports.map .notice ++ engine.trials host tried ++ [.notice last] ∧
      last.message = Notice.verdictMark ++ verdictText rule ∧
      WithoutVerdict (reports.map .notice ++ engine.trials host tried)

/-- A rule that applies is not final. -/
theorem kind_ne_final_of_trial {rule : Rule} (h : (engine.trial host rule).value = .ok true) :
    rule.kind ≠ .final := by
  intro hkind
  unfold trial applies at h
  simp only [hkind] at h
  cases h

/-- What the engine leaves itself is the account of its decision. -/
theorem Search.isAccount {tried : List Rule} {result : Except Fault (Option Rule)}
    (h : Search engine host engine.rules.rules tried result) (hrules : engine.rules.rules ≠ [])
    {rule : Rule} (hrule : result.map (·.getD engine.rules.finalRule) = .ok rule) {last : Notice}
    (hclosing : closing engine.rules result = [.notice last])
    (hlast : last.message = Notice.verdictMark ++ verdictText rule) :
    IsAccount engine host rule tried (engine.ownEvents host tried result) := by
  obtain ⟨hqueries, hlookups, hverdict⟩ := engine.events_trials host tried
  obtain ⟨hqueries', hlookups', -⟩ := events_map_notice (engine.addressReports host tried)
  have hown : engine.ownEvents host tried result =
      (engine.addressReports host tried).map .notice ++ engine.trials host tried ++
        [.notice last] := by
    rw [ownEvents, hclosing]
  refine ⟨fun source hsource ↦ ?_, ?_, ?_, _, last, hown, hlast,
    (engine.withoutVerdict_addressReports host tried).append hverdict⟩
  · rw [h.run_findRule_of_source hrules hsource, hrule]
  · rw [hown, queries_append, queries_append, hqueries, hqueries']
    rfl
  · rw [hown, lookups_append, lookups_append, hlookups, hlookups']
    exact List.append_nil _

/-- The decision that gives a rule has tried the rules up to its place. -/
theorem exists_isAccount {rule : Rule} (hrules : engine.rules.rules ≠ [])
    (h : (engine.findRule host).run.value = .ok rule) :
    ∃ place own, IsPlace engine.rules rule place ∧
      IsAccount engine host rule (engine.rules.rules.take (place + 1)) own := by
  obtain ⟨tried, result, hsearch⟩ := exists_search engine host engine.rules.rules
  have hvalue : result.map (·.getD engine.rules.finalRule) = .ok rule :=
    (congrArg Traced.value (hsearch.run_findRule hrules)).symm.trans h
  obtain ⟨rfl, htried, -⟩ | ⟨before, found, after, hlist, htried, hbefore, hend⟩ := hsearch.cases
  · -- No rule applies, so all have been tried.
    have hlength := List.length_pos_iff.2 hrules
    obtain rfl : engine.rules.finalRule = rule := Except.ok.inj hvalue
    refine ⟨engine.rules.rules.length - 1, engine.ownEvents host tried (.ok none),
      .inr ⟨rfl, by omega⟩, ?_⟩
    rw [List.take_of_length_le (by omega), ← htried]
    exact hsearch.isAccount hrules rfl rfl (message_finalUsed engine.rules)
  · obtain ⟨htrial, rfl⟩ | ⟨fault, -, rfl⟩ := hend
    · obtain rfl : found = rule := Except.ok.inj hvalue
      have hkind := kind_ne_final_of_trial htrial
      have hlast : (Notice.ruleUsed found).message = Notice.verdictMark ++ verdictText found := by
        rw [verdictText, if_neg hkind]
        rfl
      have htake : engine.rules.rules.take (before.length + 1) = tried := by
        rw [hlist, htried, List.take_length_add_append]
        rfl
      have hfresh : found ∉ before := by
        intro hmem
        rw [hbefore found hmem] at htrial
        cases htrial
      refine ⟨before.length, _, .inl ⟨?_, ?_, hkind⟩,
        htake ▸ hsearch.isAccount hrules rfl rfl hlast⟩
      · simp [hlist]
      · simpa [hlist] using hfresh
    · cases hvalue

end Engine

/-! ### What a resolver leaves -/

namespace Resolver

variable {names : NameService} {host : String}

/-- A host that is an address is its own answer, and nobody is asked. -/
theorem resolve_of_isLiteral (resolver : Resolver) (names : NameService)
    (h : IPv4.isLiteral host = true) : (resolver.resolve names host).run = ⟨.ok host, []⟩ :=
  resolver.resolveInTurns_of_isLiteral _ h

theorem withoutVerdict_askSystem (names : NameService) (host : String) :
    WithoutVerdict (askSystem names host).run.events := by
  have hfailed : ∀ cause, WithoutVerdict [.notice (.systemNamesFailed host cause)] := fun cause ↦
    .report "System DNS resolution failed for " (host ++ (": " ++ cause.message))
      (by simp only [← String.append_assoc]; rfl) (by decide)
  refine .run_bind .nil fun _ ↦ ?_
  split
  · exact .nil
  split
  · exact .run_bind (hfailed _) fun _ ↦ .nil
  · exact .nil

theorem withoutVerdict_askServers (names : NameService) (nameservers : List String)
    (host : String) : WithoutVerdict (askServers names nameservers host).events := by
  unfold askServers
  split
  · exact .nil
  · refine .bind .nil fun _ ↦ ?_
    split <;> exact .nil

theorem withoutVerdict_askConfigured (resolver : Resolver) (names : NameService) (host : String) :
    WithoutVerdict (resolver.askConfigured names host).events := by
  have hfailed : ∀ cause, WithoutVerdict [.notice (.serversFailed host cause)] := fun cause ↦
    .report "Configured resolver failed for " (host ++ (": " ++ cause.message))
      (by simp only [← String.append_assoc]; rfl) (by decide)
  refine .bind (withoutVerdict_askServers names _ host) fun answer ↦ ?_
  cases answer with
  | ok address => exact .nil
  | error cause => exact .bind (hfailed cause) fun _ ↦ .nil

theorem withoutVerdict_askEach (turns : Nat → NameService) (host : String)
    (nameservers : List String) : WithoutVerdict (askEach turns host nameservers).events := by
  induction nameservers generalizing turns with
  | nil => exact .nil
  | cons nameserver rest ih =>
    have hfailed : ∀ cause, WithoutVerdict [.notice (.fallbackFailed nameserver host cause)] :=
      fun cause ↦ .report "Alternative nameserver "
        (nameserver ++ (" failed for " ++ (host ++ (": " ++ cause.message))))
        (by simp only [← String.append_assoc]; rfl) (by decide)
    refine .bind (withoutVerdict_askServers _ _ host) fun answer ↦ ?_
    cases answer with
    | ok address => exact .nil
    | error cause => exact .bind (hfailed cause) fun _ ↦ ih _

theorem withoutVerdict_askNameservers (resolver : Resolver) (turns : Nat → NameService)
    (host : String) : WithoutVerdict (resolver.askNameservers turns host).events := by
  have hnobody : WithoutVerdict [.notice (.unresolved host)] :=
    .report "Could not resolve " (host ++ " using any available method")
      (by simp only [← String.append_assoc]; rfl) (by decide)
  refine .bind (resolver.withoutVerdict_askConfigured _ host) fun configured ↦ ?_
  split
  · exact .nil
  refine .bind (withoutVerdict_askEach _ host _) fun fallback ↦ ?_
  split
  · exact .nil
  · exact .bind hnobody fun _ ↦ .nil

/-- A resolver reports no verdict. -/
theorem withoutVerdict_resolve (resolver : Resolver) (names : NameService) (host : String) :
    WithoutVerdict (resolver.resolve names host).run.events := by
  unfold resolve resolveInTurns
  split
  · exact .nil
  split
  · exact .nil
  have hnameservers : ∀ answer : Option String, WithoutVerdict
      (if isAddress answer then pure (answer.getD "")
        else ExceptT.lift (resolver.askNameservers (fun _ ↦ names) host) :
          Deciding String).run.events := by
    intro answer
    split
    · exact .nil
    · exact .bind (resolver.withoutVerdict_askNameservers _ host) fun _ ↦ .nil
  split
  · exact .run_bind (withoutVerdict_askSystem names host) hnameservers
  · exact .run_bind .nil hnameservers

end Resolver

namespace Engine

namespace IsAccount

variable {engine : Engine} {host : String} {rule : Rule} {tried : List Rule} {own : List Event}
  {resolver : Resolver} {names : NameService}

/-- Of the source of addresses a decision has what it leaves when asked, or nothing. -/
theorem exists_events (h : IsAccount engine host rule tried own) :
    ∃ asked, (asked = [] ∨ asked = (engine.addresses host).run.events) ∧
      (engine.findRule host).run.events = asked ++ own := by
  refine ⟨_, ?_, congrArg Traced.events (h.asks engine.addresses fun _ ↦ rfl)⟩
  split
  · exact .inr rfl
  · exact .inl rfl

/-- With a resolver, deciding about an address asks no name service. -/
theorem queries_of_resolver (h : IsAccount engine host rule tried own)
    (hsource : engine.addresses = resolver.resolve names) (hliteral : IPv4.isLiteral host = true) :
    queries (engine.findRule host).run.events = [] := by
  obtain ⟨asked, hasked, hevents⟩ := h.exists_events
  rw [hsource, resolver.resolve_of_isLiteral names hliteral, or_self] at hasked
  rw [hevents, hasked, List.nil_append, h.queries_eq]

/-- With a resolver, the verdict is the last event, and the only verdict. -/
theorem exists_verdict_of_resolver (h : IsAccount engine host rule tried own)
    (hsource : engine.addresses = resolver.resolve names) :
    ∃ earlier last, (engine.findRule host).run.events = earlier ++ [.notice last] ∧
      last.message = Notice.verdictMark ++ verdictText rule ∧ WithoutVerdict earlier := by
  obtain ⟨asked, hasked, hevents⟩ := h.exists_events
  obtain ⟨reports, last, hown, hlast, hverdict⟩ := h.verdict
  have hasked : WithoutVerdict asked := by
    rcases hasked with rfl | rfl
    · exact .nil
    · rw [hsource]
      exact resolver.withoutVerdict_resolve names host
  refine ⟨asked ++ (reports.map .notice ++ engine.trials host tried), last, ?_, hlast,
    hasked.append hverdict⟩
  rw [hevents, hown, List.append_assoc asked]

end IsAccount

/-- **A decision asks for an address at most once, looks up a country only where a rule about one is
tried, and ends with its only verdict.** Without rules it asks nobody. A resolver adds no verdict,
and for a host that is an address no name service is asked. -/
theorem findRule_asks_once {engine : Engine} {host : String} {rule : Rule}
    (h : (engine.findRule host).run.value = .ok rule) :
    (engine.rules.rules = [] → ∀ source : AddressSource,
      (({ engine with addresses := source } : Engine).findRule host).run =
        ⟨.ok rule, [.notice .noRules]⟩) ∧
      (engine.rules.rules ≠ [] → ∃ place own, IsPlace engine.rules rule place ∧
        IsAccount engine host rule (engine.rules.rules.take (place + 1)) own) ∧
      ∀ (resolver : Resolver) (names : NameService), engine.addresses = resolver.resolve names →
        (IPv4.isLiteral host = true → queries (engine.findRule host).run.events = []) ∧
          (engine.rules.rules ≠ [] → ∃ earlier last,
            (engine.findRule host).run.events = earlier ++ [.notice last] ∧
              last.message = Notice.verdictMark ++ verdictText rule ∧ WithoutVerdict earlier) := by
  have hnone : engine.rules.rules = [] → ∀ source : AddressSource,
      (({ engine with addresses := source } : Engine).findRule host).run =
        ⟨.ok rule, [.notice .noRules]⟩ := by
    intro hrules source
    simp only [findRule, hrules, List.isEmpty_nil, if_true] at h ⊢
    obtain rfl : Rule.ofFinal .proxy = rule := Except.ok.inj h
    rfl
  refine ⟨hnone, fun hrules ↦ exists_isAccount hrules h, fun resolver names hsource ↦ ?_⟩
  by_cases hrules : engine.rules.rules = []
  · refine ⟨fun _ ↦ ?_, fun hrules' ↦ absurd hrules hrules'⟩
    have hrun : (engine.findRule host).run = ⟨.ok rule, [.notice .noRules]⟩ :=
      hnone hrules engine.addresses
    rw [hrun]
    rfl
  · obtain ⟨place, own, -, haccount⟩ := exists_isAccount hrules h
    exact ⟨haccount.queries_of_resolver hsource,
      fun _ ↦ haccount.exists_verdict_of_resolver hsource⟩

/-- Two rules about countries are tried and the second one applies: the operating system is asked
once, and the country is looked up twice. -/
theorem findRule_asks_once_for_two_countries :
    let names : NameService := ⟨fun _ ↦ .ok "10.1.2.3", fun _ _ ↦ .ok []⟩
    let engine : Engine :=
      ⟨({} : Resolver).resolve names, fun _ ↦ .ok (some (.text "CN")),
        ⟨[⟨.domain, some "example.com", .direct⟩, ⟨.geoIp, some "us", .reject⟩,
          ⟨.geoIp, some "cn", .direct⟩, ⟨.ipCidr, some "10.0.0.0/8", .reject⟩], .proxy⟩⟩
    let rule : Rule := ⟨.geoIp, some "cn", .direct⟩
    (engine.findRule "Example.org").run.value = .ok rule ∧
      queries (engine.findRule "Example.org").run.events = [.system "Example.org"] ∧
      lookups (engine.findRule "Example.org").run.events = ["10.1.2.3", "10.1.2.3"] ∧
      (∃ place own, IsPlace engine.rules rule place ∧
        IsAccount engine "Example.org" rule (engine.rules.rules.take (place + 1)) own) ∧
      ∃ earlier last, (engine.findRule "Example.org").run.events = earlier ++ [.notice last] ∧
        last.message = Notice.verdictMark ++ verdictText rule ∧ WithoutVerdict earlier := by
  intro names engine rule
  have hfind : (engine.findRule "Example.org").run.value = .ok rule := by decide +kernel
  have hrules : engine.rules.rules ≠ [] := List.cons_ne_nil _ _
  obtain ⟨-, haccount, hresolver⟩ := findRule_asks_once hfind
  exact ⟨hfind, by decide +kernel, by decide +kernel, haccount hrules,
    (hresolver {} names rfl).2 hrules⟩

end Engine

end SocksRouter
