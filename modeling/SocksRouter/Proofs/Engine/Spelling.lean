import SocksRouter.Engine.Loading
import SocksRouter.Proofs.Engine.Decision
import SocksRouter.Proofs.Rule.Line
import SocksRouter.Proofs.Text.Sigma

/-!
# Domain rules and the case of letters

The pattern of a rule and the name of a host are compared in lower case, and each is lower-cased by
itself. A host that is its pattern is then found whatever letters it is spelled with. A host that
only ends in its pattern, or only has it inside, may be missed: a capital sigma at the edge of the
pattern can take one form there and another one in the host (`findRule_misses_keyword`).

That is the only way to miss a host (`fires_of_keepsForms`). A rule about what hosts end in is found
just when the sigmas of its pattern keep their forms; a rule about what they have inside is found
whenever they do.
-/

namespace SocksRouter.Engine

open Text

/-- A rule with the given pattern, alone in force, is the one for the host. -/
def Fires (engine : Engine) (default : Action) (kind : RuleKind) (pattern : String)
    (action : Action) (host : String) : Prop :=
  ∃ rule, Rule.make kind (some pattern) action = .ok rule ∧
    ((engine.swap ⟨[rule], default⟩).findRule host).run.value = .ok rule

/-- A single rule is found just when it applies, unless it asks for a country. -/
theorem findRule_eq_ok_iff {engine : Engine} {host : String} {rule : Rule}
    (hrules : engine.rules.rules = [rule]) (hcountry : rule.kind ≠ .geoIp)
    (hfinal : rule.kind ≠ .final) :
    (engine.findRule host).run.value = .ok rule ↔
      Applies engine.countries host (engine.addressOf host) rule := by
  obtain ⟨found, hfind, hfound⟩ | ⟨before, other, after, code, hlist, -, hcode, -⟩ :=
    engine.findRule_cases host
  · rw [hfind, Except.ok.injEq]
    cases hfound with
    | noRules h => simp [h] at hrules
    | @first before after _ h hbefore happlies =>
      obtain ⟨rfl, rfl, rfl⟩ : before = [] ∧ found = rule ∧ after = [] := by
        rw [h] at hrules
        simpa [List.append_eq_singleton_iff] using hrules
      exact iff_of_true rfl happlies
    | last h hnone =>
      refine iff_of_false ?_ (hnone rule (by simp [hrules]))
      rintro rfl
      exact hfinal rfl
  · obtain rfl : other = rule := by
      have hmem : other ∈ engine.rules.rules := by simp [hlist]
      simpa [hrules] using hmem
    exact absurd hcode.1 hcountry

/-- What a domain rule compares is the lower case of its pattern. -/
theorem fires_iff {engine : Engine} {default action : Action} {kind : RuleKind}
    {pattern host : String} (hpattern : pattern ≠ "") (hkind : kind.needsAddress = false)
    (hfinal : kind ≠ .final) :
    engine.Fires default kind pattern action host ↔
      Applies engine.countries host (engine.addressOf host)
        ⟨kind, some (String.ofList (lower pattern.toList)), action⟩ := by
  have hcountry : kind ≠ .geoIp := by
    rintro rfl
    contradiction
  have hmake : Rule.make kind (some pattern) action =
      .ok ⟨kind, some (String.ofList (lower pattern.toList)), action⟩ :=
    Rule.make_some_eq_ok_iff.2 ⟨hfinal, hpattern, rfl⟩
  simp only [Fires, hmake, Except.ok.injEq, exists_eq_left']
  exact findRule_eq_ok_iff rfl hcountry hfinal

variable {engine : Engine} {default action : Action} {pattern : String}

/-- A rule is found for the host that it names. -/
theorem fires_domain (hpattern : pattern ≠ "") :
    engine.Fires default .domain pattern action pattern :=
  (fires_iff hpattern rfl (by decide)).2 rfl

theorem fires_domainSuffix_iff (hpattern : pattern ≠ "") (before : String) :
    engine.Fires default .domainSuffix pattern action (before ++ pattern) ↔
      KeepsForms before.toList [] pattern.toList := by
  obtain ⟨first, middle, last, hlower, hlength, hkeeps, hlast⟩ :=
    exists_lower_append before.toList pattern.toList []
  rw [hlast rfl, List.append_nil, List.append_nil] at hlower
  rw [fires_iff hpattern rfl (by decide), ← hkeeps]
  simp only [Applies, Rule.patternText, Option.getD_some, String.toList_ofList, lowered,
    String.toList_append, hlower]
  constructor
  · -- Two ends of a text that are equally long are the same.
    intro hsuffix
    have hends : middle <:+ lower pattern.toList :=
      List.suffix_of_suffix_length_le (List.suffix_append first middle) hsuffix hlength.le
    exact hends.eq_of_length hlength
  · intro h
    exact h ▸ List.suffix_append first middle

theorem fires_domainKeyword (hpattern : pattern ≠ "") {before after : String}
    (h : KeepsForms before.toList after.toList pattern.toList) :
    engine.Fires default .domainKeyword pattern action (before ++ pattern ++ after) := by
  obtain ⟨first, middle, last, hlower, -, hkeeps, -⟩ :=
    exists_lower_append before.toList pattern.toList after.toList
  rw [fires_iff hpattern rfl (by decide)]
  simp only [Applies, Rule.patternText, Option.getD_some, String.toList_ofList, lowered,
    String.toList_append, List.append_assoc, hlower, ← hkeeps.2 h]
  exact ⟨first, last, by simp⟩

/-- **A domain rule is found for the hosts that its pattern says**, in capital or in small letters,
as long as the capital sigmas of the pattern have the same forms in the host as alone, and so
whenever there are none. A rule for a host by its name is found in any case, and a rule for what
hosts end in only then. -/
theorem fires_of_keepsForms (engine : Engine) (default action : Action) (pattern : String)
    (hpattern : pattern ≠ "") (before after : String) :
    engine.Fires default .domain pattern action pattern ∧
      (engine.Fires default .domainSuffix pattern action (before ++ pattern) ↔
        KeepsForms before.toList [] pattern.toList) ∧
      (KeepsForms before.toList after.toList pattern.toList →
        engine.Fires default .domainKeyword pattern action (before ++ pattern ++ after)) ∧
      ('\u03A3' ∉ pattern.toList →
        engine.Fires default .domainSuffix pattern action (before ++ pattern) ∧
          engine.Fires default .domainKeyword pattern action (before ++ pattern ++ after)) :=
  ⟨fires_domain hpattern, fires_domainSuffix_iff hpattern before, fires_domainKeyword hpattern,
    fun h ↦ ⟨(fires_domainSuffix_iff hpattern before).2 (keepsForms_of_not_mem h _ _),
      fires_domainKeyword hpattern (keepsForms_of_not_mem h _ _)⟩⟩

/-- A pattern that ends in a final sigma is found in front of a number, and one with a dotted
capital I at the end of a host. -/
theorem fires_of_keepsForms_final :
    let engine : Engine := ⟨fun _ ↦ pure "", fun _ ↦ .ok none, {}⟩
    engine.Fires .direct .domain "\u039F\u0394\u039F\u03A3" .reject "\u039F\u0394\u039F\u03A3" ∧
      engine.Fires .direct .domainKeyword "\u039F\u0394\u039F\u03A3" .reject
        ("WWW." ++ "\u039F\u0394\u039F\u03A3" ++ ".1") ∧
      engine.Fires .direct .domainSuffix ".\u0130ST" .reject
        ("\u039F\u0394\u039F\u03A3" ++ ".\u0130ST") := by
  intro engine
  obtain ⟨hdomain, -, hkeyword, -⟩ := fires_of_keepsForms engine .direct .reject
    "\u039F\u0394\u039F\u03A3" (by decide) "WWW." ".1"
  obtain ⟨-, -, -, hplain⟩ := fires_of_keepsForms engine .direct .reject ".\u0130ST" (by decide)
    "\u039F\u0394\u039F\u03A3" ""
  exact ⟨hdomain, hkeyword (by decide +kernel), (hplain (by decide)).1⟩

/-- A rule for what hosts have inside misses a host that starts with its very pattern, because a
letter follows there, so that the sigma is not final; and a rule for what hosts end in misses a host
in which its sigma is final. -/
theorem findRule_misses_keyword :
    let set := parseConfig
      "[Rule]\nDOMAIN-KEYWORD,\u039F\u0394\u039F\u03A3,REJECT\nFINAL,DIRECT\n"
    let engine : Engine := ⟨fun _ ↦ pure "", fun _ ↦ .ok none, set⟩
    (engine.findRule ("" ++ "\u039F\u0394\u039F\u03A3" ++ ".gr")).run.value =
        .ok (Rule.ofFinal .direct) ∧
      ¬engine.Fires .direct .domainKeyword "\u039F\u0394\u039F\u03A3" .reject
        ("" ++ "\u039F\u0394\u039F\u03A3" ++ ".gr") ∧
      ¬engine.Fires .direct .domainSuffix "\u03A3" .reject ("\u039F\u0394\u039F" ++ "\u03A3") := by
  intro set engine
  refine ⟨by decide +kernel, ?_, ?_⟩
  · rw [fires_iff (by decide) rfl (by decide), ← appliesTo_iff]
    decide +kernel
  · rw [fires_domainSuffix_iff (by decide)]
    decide +kernel

end SocksRouter.Engine
