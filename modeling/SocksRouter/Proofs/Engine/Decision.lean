import SocksRouter.Proofs.Address.Block
import SocksRouter.Proofs.Engine.Search

/-!
# Deciding late is deciding at once

The search for a rule asks for the address of a host when the first rule wants one, keeps it, and
goes on through every failure. `RuleFor` says what the search is for, with nothing of this in it:
the host has one address or none, a rule applies to it or not (`Applies`), and the first that
applies counts. The search finds exactly that rule (`exists_findRule_iff_ruleFor`), for any source
of addresses, and for any country data whose codes are texts.

Two facts carry it.

* The search is one of trials, each made with the address that the host has
  (`Search.run_findRule`). When that is asked for, and how often, is nothing that a rule could tell.
* Every failure on the way, of a name, of a block or of a country, is an answer and not a fault
  (`trial_value`). So nothing but the rules themselves can end the search, unless a country code
  cannot be put in lower case (`findRule_cases`). Texts can be, and bytes; no other code can.
-/

namespace SocksRouter

open Text

/-- The values that cannot be put in lower case are those that are neither texts nor bytes. -/
theorem Datum.not_hasLower_iff {datum : Datum} :
    ¬datum.hasLower = true ↔ (∀ text, datum ≠ .text text) ∧ ∀ bytes, datum ≠ .bytes bytes := by
  cases datum <;> simp [hasLower]

namespace Deciding

variable {α β : Type}

@[simp] theorem value_emit (event : Event) : (Deciding.emit event).run.value = .ok () := rfl

@[simp] theorem value_report (what : Notice) : (Deciding.report what).run.value = .ok () := rfl

/-- The result of two operations, one after the other, when the first gives one. -/
theorem value_bind {x : Deciding α} {a : α} (h : x.run.value = .ok a) (f : α → Deciding β) :
    (x >>= f).run.value = (f a).run.value := by
  rw [ExceptT.run_bind, Traced.value_bind, h]

theorem value_map {x : Deciding α} {a : α} (h : x.run.value = .ok a) (f : α → β) :
    (f <$> x).run.value = .ok (f a) := by
  rw [ExceptT.run] at h ⊢
  simp only [Functor.map, ExceptT.map, ExceptT.mk, Traced.value_bind, h, Traced.value_pure]

end Deciding

namespace Engine

/-! ### What a decision is -/

/-- Whether a rule applies to a host that resolves to `address`, as a matter of fact. -/
def Applies (countries : CountrySource) (host address : String) (rule : Rule) : Prop :=
  match rule.kind with
  | .domain => lowered host = rule.patternText
  | .domainKeyword => rule.patternText.toList <:+: (lowered host).toList
  | .domainSuffix => rule.patternText.toList <:+ (lowered host).toList
  | .ipCidr =>
    ∃ ip base bits, address = IPv4.toString ip ∧ Block.IsText rule.patternText base bits ∧
      Block.InBlock base.toNat bits ip.toNat
  | .geoIp =>
    address ≠ "" ∧
      ∃ code, countries address = .ok (some (.text code)) ∧ lowered code = rule.patternText
  | .final => False

/-- The rule for a host. Without rules everything goes through the forward proxy; otherwise the
first rule that applies decides, and the final rule where none does. -/
inductive RuleFor (engine : Engine) (host : String) : Rule → Prop
  /-- There are no rules. -/
  | noRules (h : engine.rules.rules = []) : RuleFor engine host (Rule.ofFinal .proxy)
  /-- A rule applies and none before it does. -/
  | first {before after : List Rule} {rule : Rule}
      (h : engine.rules.rules = before ++ rule :: after)
      (hbefore : ∀ earlier ∈ before,
        ¬Applies engine.countries host (engine.addressOf host) earlier)
      (hrule : Applies engine.countries host (engine.addressOf host) rule) :
      RuleFor engine host rule
  /-- There are rules, but none applies. -/
  | last (h : engine.rules.rules ≠ [])
      (hnone : ∀ rule ∈ engine.rules.rules,
        ¬Applies engine.countries host (engine.addressOf host) rule) :
      RuleFor engine host (Rule.ofFinal engine.rules.default)

/-- Country data whose codes are texts. -/
def CodesAreTexts (countries : CountrySource) : Prop :=
  ∀ address datum, countries address = .ok (some datum) → ∃ code, datum = .text code

/-! ### The decision, computed at once -/

/-- Being in the block of a rule can be computed. -/
theorem contains_iff {address pattern : String} :
    (match IPv4.parse? address, Block.parse pattern with
      | some ip, .ok block => block.contains ip
      | _, _ => false) = true ↔
      ∃ ip base bits, address = IPv4.toString ip ∧ Block.IsText pattern base bits ∧
        Block.InBlock base.toNat bits ip.toNat := by
  constructor
  · intro h
    split at h
    · rename_i ip block hip hblock
      obtain ⟨base, bits, htext, rfl⟩ := Block.parse_eq_ok_iff.1 hblock
      exact ⟨ip, base, bits, IPv4.parse?_eq_some_iff.1 hip, htext,
        Block.contains_around_iff.1 h⟩
    · contradiction
  · rintro ⟨ip, base, bits, hip, htext, hin⟩
    rw [IPv4.parse?_eq_some_iff.2 hip, Block.parse_eq_ok_iff.2 ⟨base, bits, htext, rfl⟩]
    exact Block.contains_around_iff.2 hin

theorem appliesTo_iff {countries : CountrySource} {host address : String} {rule : Rule} :
    appliesTo countries host address rule = true ↔ Applies countries host address rule := by
  unfold appliesTo Applies
  cases rule.kind with
  | domain => exact decide_eq_true_iff
  | domainKeyword => exact occursIn_iff_isInfix
  | domainSuffix => exact List.isSuffixOf_iff_suffix
  | ipCidr => exact contains_iff
  | geoIp =>
    rw [Bool.and_eq_true, Bool.not_eq_true', String.isEmpty_eq_false_iff]
    refine and_congr Iff.rfl ⟨fun h ↦ ?_, fun ⟨code, hcode, heq⟩ ↦ ?_⟩
    · split at h
      · rename_i code hcode
        exact ⟨code, hcode, of_decide_eq_true h⟩
      · contradiction
    · rw [hcode]
      exact decide_eq_true heq
  | final => simp

theorem eagerRule_of_ne_nil {engine : Engine} (host : String) (h : engine.rules.rules ≠ []) :
    engine.eagerRule host =
      (engine.rules.rules.find?
        (appliesTo engine.countries host (engine.addressOf host))).getD engine.rules.finalRule := by
  rw [eagerRule, if_neg (by simpa using h)]

/-- There is one rule for a host, and it can be computed at once. -/
theorem ruleFor_iff {engine : Engine} {host : String} {rule : Rule} :
    RuleFor engine host rule ↔ rule = engine.eagerRule host := by
  constructor
  · intro h
    cases h with
    | noRules h => simp [eagerRule, h]
    | @first before after _ h hbefore hrule =>
      have hfind := List.find?_eq_some_iff_append.2
        ⟨appliesTo_iff.2 hrule, before, after, h,
          fun r hr ↦ by simpa using mt appliesTo_iff.1 (hbefore r hr)⟩
      rw [eagerRule_of_ne_nil host (by simp [h]), hfind, Option.getD_some]
    | last h hnone =>
      have hfind := List.find?_eq_none.2 fun r hr ↦ mt appliesTo_iff.1 (hnone r hr)
      rw [eagerRule_of_ne_nil host h, hfind, Option.getD_none, RuleSet.finalRule]
  · rintro rfl
    by_cases hrules : engine.rules.rules = []
    · rw [eagerRule, if_pos (by simpa using hrules)]
      exact .noRules hrules
    · rw [eagerRule_of_ne_nil host hrules]
      rcases hfind : engine.rules.rules.find?
          (appliesTo engine.countries host (engine.addressOf host)) with - | rule
      · exact .last hrules fun r hr ↦ mt appliesTo_iff.2 (List.find?_eq_none.1 hfind r hr)
      · obtain ⟨hrule, before, after, h, hbefore⟩ := List.find?_eq_some_iff_append.1 hfind
        exact .first h (fun r hr ↦ mt appliesTo_iff.2 (by simpa using hbefore r hr))
          (appliesTo_iff.1 hrule)

/-! ### The search -/

/-- A rule whose block cannot be read does not apply. -/
theorem matchesBlock_value (rule : Rule) (address : String) :
    (matchesBlock rule address).value =
      (match IPv4.parse? address, Block.parse rule.patternText with
        | some ip, .ok block => block.contains ip
        | _, _ => false) := by
  rw [matchesBlock, IPv4.isLiteral, Block.matchText]
  cases hip : IPv4.parse address with
  | error cause => simp [IPv4.parse?, hip, Except.toOption]
  | ok ip =>
    cases hblock : Block.parse rule.patternText <;> simp [IPv4.parse?, hip, Except.toOption]

/-- A country that cannot be looked up is none, and one whose code is bytes is no other's. -/
theorem matchesCountry_value {countries : CountrySource} {address : String}
    (hcode : ∀ datum, countries address = .ok (some datum) → datum.hasLower = true)
    (pattern : String) :
    (matchesCountry countries address pattern).run.value = .ok (!address.isEmpty &&
      match countries address with
      | .ok (some (.text code)) => lowered code = pattern
      | _ => false) := by
  rw [matchesCountry]
  cases address.isEmpty with
  | true => rfl
  | false =>
    rw [if_neg (by simp), Deciding.value_bind (Deciding.value_emit _)]
    rcases hcountry : countries address with cause | - | datum
    · rw [Deciding.value_bind (Deciding.value_report _)]
      rfl
    · rfl
    · have hlower := hcode datum hcountry
      cases datum with
      | text code =>
        dsimp only
        split
        · rename_i heq
          rw [Deciding.value_bind (Deciding.value_report _)]
          simp [heq]
        · rename_i hne
          simp [hne]
      | bytes => rfl
      | nothing | truth | number | decimal | noDecimal | row | table => contradiction

/-- The rule asks for the country of the address, and the code of that cannot be put in lower case:
it is neither a text nor bytes. -/
def Incomparable (countries : CountrySource) (address : String) (rule : Rule) (code : Datum) :
    Prop :=
  rule.kind = .geoIp ∧ address ≠ "" ∧ countries address = .ok (some code) ∧
    (∀ text, code ≠ .text text) ∧ ∀ bytes, code ≠ .bytes bytes

/-- **Whether a rule applies is answered**, unless it is to be compared with a code without a lower
case. -/
theorem trial_value {engine : Engine} {host : String} {rule : Rule}
    (hcomparable : ∀ code, ¬Incomparable engine.countries (engine.addressOf host) rule code) :
    (engine.trial host rule).value =
      .ok (appliesTo engine.countries host (engine.addressOf host) rule) := by
  unfold trial applies appliesTo
  cases hkind : rule.kind with
  | domain => rfl
  | domainKeyword => rfl
  | domainSuffix => rfl
  | ipCidr => exact congrArg Except.ok (matchesBlock_value rule _)
  | geoIp =>
    by_cases hempty : engine.addressOf host = ""
    · simp [matchesCountry, hempty]
    refine matchesCountry_value (fun datum hdatum ↦ ?_) rule.patternText
    by_contra hnone
    exact hcomparable datum ⟨hkind, hempty, hdatum, Datum.not_hasLower_iff.1 hnone⟩
  | final => rfl

/-- A code without a lower case is refused with the word for its type. -/
theorem trial_of_incomparable {engine : Engine} {host : String} {rule : Rule} {code : Datum}
    (h : Incomparable engine.countries (engine.addressOf host) rule code) :
    (engine.trial host rule).value = .error (.countryCode code.typeWord) := by
  obtain ⟨hkind, haddress, hcountry, hcode⟩ := h
  have hlower := Datum.not_hasLower_iff.2 hcode
  unfold trial applies
  simp only [hkind]
  rw [matchesCountry, if_neg (by simpa using haddress),
    Deciding.value_bind (Deciding.value_emit _), hcountry]
  cases code with
  | text | bytes => exact absurd rfl hlower
  | nothing | truth | number | decimal | noDecimal | row | table => rfl

/-- **A trial gives an answer, or it comes to a code without a lower case.** -/
theorem trial_cases (engine : Engine) (host : String) (rule : Rule) :
    (engine.trial host rule).value =
        .ok (appliesTo engine.countries host (engine.addressOf host) rule) ∨
      ∃ code, Incomparable engine.countries (engine.addressOf host) rule code ∧
        (engine.trial host rule).value = .error (.countryCode code.typeWord) := by
  by_cases hcode : ∃ code, Incomparable engine.countries (engine.addressOf host) rule code
  · obtain ⟨code, hcode⟩ := hcode
    exact .inr ⟨code, hcode, trial_of_incomparable hcode⟩
  · exact .inl (trial_value (not_exists.1 hcode))

/-- A trial that gives an answer gives the true one. -/
theorem applies_iff_of_trial {engine : Engine} {host : String} {rule : Rule} {answer : Bool}
    (h : (engine.trial host rule).value = .ok answer) :
    answer = true ↔ Applies engine.countries host (engine.addressOf host) rule := by
  obtain hok | ⟨code, -, herror⟩ := engine.trial_cases host rule
  · obtain rfl := Except.ok.inj (hok.symm.trans h)
    exact appliesTo_iff
  · rw [herror] at h
    contradiction

/-- Only a code without a lower case stops a trial. -/
theorem incomparable_of_trial {engine : Engine} {host : String} {rule : Rule} {fault : Fault}
    (h : (engine.trial host rule).value = .error fault) :
    ∃ code, Incomparable engine.countries (engine.addressOf host) rule code ∧
      fault = .countryCode code.typeWord := by
  obtain hok | ⟨code, hcode, herror⟩ := engine.trial_cases host rule
  · rw [hok] at h
    contradiction
  · exact ⟨code, hcode, Except.error.inj (h.symm.trans herror)⟩

/-- **A search gives the rule for the host, or it comes to a code without a lower case**, and then
no rule before that applies. -/
theorem findRule_cases (engine : Engine) (host : String) :
    (∃ rule, (engine.findRule host).run.value = .ok rule ∧ RuleFor engine host rule) ∨
      ∃ before rule after code, engine.rules.rules = before ++ rule :: after ∧
        (∀ earlier ∈ before,
          ¬Applies engine.countries host (engine.addressOf host) earlier) ∧
        Incomparable engine.countries (engine.addressOf host) rule code ∧
        (engine.findRule host).run.value = .error (.countryCode code.typeWord) := by
  by_cases hrules : engine.rules.rules = []
  · refine .inl ⟨Rule.ofFinal .proxy, ?_, .noRules hrules⟩
    rw [findRule, if_pos (by simpa using hrules)]
    rfl
  obtain ⟨tried, result, hsearch⟩ := exists_search engine host engine.rules.rules
  have hvalue := congrArg Traced.value (hsearch.run_findRule hrules)
  have hpass : ∀ passed : List Rule,
      (∀ rule ∈ passed, (engine.trial host rule).value = .ok false) →
        ∀ rule ∈ passed, ¬Applies engine.countries host (engine.addressOf host) rule :=
    fun passed hpassed rule hrule ↦
      mt (applies_iff_of_trial (hpassed rule hrule)).2 Bool.false_ne_true
  obtain ⟨rfl, -, hall⟩ | ⟨before, rule, after, hlist, -, hbefore, hend⟩ := hsearch.cases
  · exact .inl ⟨_, hvalue, .last hrules (hpass _ hall)⟩
  obtain ⟨htrial, rfl⟩ | ⟨fault, htrial, rfl⟩ := hend
  · exact .inl ⟨rule, hvalue, .first hlist (hpass _ hbefore)
      ((applies_iff_of_trial htrial).1 rfl)⟩
  · obtain ⟨code, hcode, rfl⟩ := incomparable_of_trial htrial
    exact .inr ⟨before, rule, after, code, hlist, hpass _ hbefore, hcode, hvalue⟩

theorem findRule_value {engine : Engine} (hcodes : CodesAreTexts engine.countries) (host : String) :
    (engine.findRule host).run.value = .ok (engine.eagerRule host) := by
  obtain ⟨rule, hfind, hrule⟩ | ⟨before, rule, after, code, -, -, hcode, -⟩ :=
    engine.findRule_cases host
  · rw [hfind, ruleFor_iff.1 hrule]
  · obtain ⟨-, -, hcountry, hnoText, -⟩ := hcode
    obtain ⟨text, rfl⟩ := hcodes _ code hcountry
    exact absurd rfl (hnoText text)

/-- **A decision is the first rule that applies.** With country data whose codes are texts, the
search gives a rule, that rule is the one for the host, and what is done is the action of it. -/
theorem exists_findRule_iff_ruleFor (engine : Engine) (hcodes : CodesAreTexts engine.countries)
    (host : String) :
    ∃ rule, (∀ other, engine.RuleFor host other ↔ other = rule) ∧
      (engine.findRule host).run.value = .ok rule ∧
      (engine.decide host).run.value = .ok rule.action :=
  ⟨engine.eagerRule host, fun _ ↦ ruleFor_iff, findRule_value hcodes host,
    Deciding.value_map (findRule_value hcodes host) Rule.action⟩

/-- A block that cannot be read and a country that is another one do not apply; the block that holds
the address does. -/
theorem findRule_behind_malformed_block :
    let engine : Engine :=
      ⟨fun _ ↦ pure "10.1.2.3", fun _ ↦ .ok (some (.text "CN")),
        ⟨[⟨.ipCidr, some "10.0.0.0/33", .reject⟩, ⟨.geoIp, some "us", .reject⟩,
          ⟨.ipCidr, some "10.0.0.0/8", .direct⟩], .proxy⟩⟩
    CodesAreTexts engine.countries ∧
      (engine.findRule "Example.org").run.value =
        .ok ⟨.ipCidr, some "10.0.0.0/8", .direct⟩ ∧
      (engine.decide "Example.org").run.value = .ok .direct := by
  intro engine
  have hcodes : CodesAreTexts engine.countries := by
    intro address datum h
    exact ⟨"CN", (Option.some.inj (Except.ok.inj h)).symm⟩
  obtain ⟨rule, hrule, hfind, hdecide⟩ :=
    exists_findRule_iff_ruleFor engine hcodes "Example.org"
  obtain rfl := (hrule ⟨.ipCidr, some "10.0.0.0/8", .direct⟩).1
    (ruleFor_iff.2 (by subst engine; decide +kernel))
  exact ⟨hcodes, hfind, hdecide⟩

end Engine

end SocksRouter
