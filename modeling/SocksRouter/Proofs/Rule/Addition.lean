import SocksRouter.Proofs.Rule.Containment
import SocksRouter.Proofs.Rule.Form

/-!
# What a line may add

A line adds at most one rule to the list, the one that is read from it (`addedRule?`), and the rules
of a run come from its lines in order (`Reading.exists_added`). What is known of a line that adds a
rule rests on the words that stand in it (`exists_words_of_addedRule?`).

* It has two commas, so lines cannot add more rules than half their commas
  (`two_mul_length_filterMap_le`).
* It has every character before the letter a at least as often as the pattern has it
  (`count_pattern_le`).
* It is no shorter than the line of the rule (`length_line_le`), unless it has the one capital that
  becomes two characters in lower case.
-/

namespace SocksRouter

open Text

/-- The rule that a line of the rule section adds to the list, if it adds one. -/
def addedRule? (line : List Char) : Option Rule :=
  (parseLine (strip line)).1.filter fun rule ↦ rule.kind ≠ .final

namespace Reading

theorem exists_added_step (reading : Reading) (n : Nat) (line : List Char) :
    ∃ added, (reading.step n line).set.rules = reading.set.rules ++ added ∧
      added.Sublist (addedRule? line).toList := by
  have hnothing : ∃ added, reading.set.rules = reading.set.rules ++ added ∧
      added.Sublist (addedRule? line).toList := ⟨[], by simp, List.nil_sublist _⟩
  rw [step]
  split
  · exact hnothing
  · exact hnothing
  · split
    · rw [content, addedRule?]
      rcases parseLine (strip line) with ⟨- | rule, notices⟩
      · exact ⟨[], by simp, List.nil_sublist _⟩
      · by_cases hfinal : rule.kind = .final
        · exact ⟨[], by simp [hfinal], List.nil_sublist _⟩
        · exact ⟨[rule], by simp [hfinal], by simp [hfinal]⟩
    · exact hnothing

/-- **The rules that are read come from the lines, in order.** -/
theorem exists_added (reading : Reading) (n : Nat) (ls : List (List Char)) :
    ∃ added, (reading.run n ls).set.rules = reading.set.rules ++ added ∧
      added.Sublist (ls.filterMap addedRule?) := by
  induction ls generalizing reading n with
  | nil => exact ⟨[], by simp [run], List.nil_sublist _⟩
  | cons line rest ih =>
    obtain ⟨first, hfirst, hfirstSub⟩ := exists_added_step reading n line
    obtain ⟨more, hmore, hmoreSub⟩ := ih (reading.step n line) (n + 1)
    refine ⟨first ++ more, by rw [run, hmore, hfirst, List.append_assoc], ?_⟩
    rw [List.filterMap_cons]
    cases hadded : addedRule? line with
    | none =>
      rw [hadded] at hfirstSub
      rw [List.sublist_nil.1 hfirstSub]
      exact hmoreSub
    | some rule =>
      rw [hadded] at hfirstSub
      exact hfirstSub.append hmoreSub

end Reading

section

variable {line : List Char} {rule : Rule}

theorem Margin.sublist_around (margin : Margin) (word : List Char) :
    word.Sublist (margin.around word) :=
  (List.sublist_append_left word margin.right).trans (List.sublist_append_right margin.left _)

/-- **A line that adds a rule has its words in it**, the pattern as it was before its capitals
were lost. -/
theorem exists_words_of_addedRule? (h : addedRule? line = some rule) :
    ∃ p, (rule.kind.token.toList ++ ',' :: (p ++ ',' :: rule.action.token.toList)).Sublist
        (strip line) ∧
      rule.pattern = some (String.ofList (lower p)) := by
  obtain ⟨hparse, hlisted⟩ := Option.filter_eq_some_iff.1 h
  obtain ⟨form, htext⟩ := exists_form_of_parseLine hparse
  rw [← htext, form.parseLine_text] at hparse
  cases form with
  | final kindMargin actionMargin action =>
    rw [← Option.some.inj hparse] at hlisted
    simp [RuleForm.rule] at hlisted
  | other kindMargin patternMargin actionMargin kind hkind pattern action =>
    obtain rfl := Option.some.inj hparse
    rw [← htext]
    have haction := (actionMargin.sublist_around action.token.toList).cons_cons ','
    have hpattern := ((patternMargin.sublist_around pattern.text).append haction).cons_cons ','
    exact ⟨pattern.text, (kindMargin.sublist_around _).append hpattern, rfl⟩

theorem two_le_count_comma (h : addedRule? line = some rule) : 2 ≤ line.count ',' := by
  obtain ⟨p, hwords, -⟩ := exists_words_of_addedRule? h
  have hcount := (hwords.trans (strip_isInfix line).sublist).count_le ','
  rw [List.count_append, List.count_cons_self, List.count_append, List.count_cons_self] at hcount
  omega

/-- **Lines add no more rules than half their commas.** -/
theorem two_mul_length_filterMap_le (ls : List (List Char)) :
    2 * (ls.filterMap addedRule?).length ≤ ls.flatten.count ',' := by
  induction ls with
  | nil => exact Nat.zero_le _
  | cons line rest ih =>
    rw [List.flatten_cons, List.count_append]
    cases hadded : addedRule? line with
    | none =>
      rw [List.filterMap_cons_none hadded]
      omega
    | some rule =>
      have := two_le_count_comma hadded
      rw [List.filterMap_cons_some hadded, List.length_cons]
      omega

/-- A character before the letter a is in the line as often as in the pattern. -/
theorem count_pattern_le (h : addedRule? line = some rule) {q : List Char}
    (hq : rule.pattern = some (String.ofList q)) {c : Char} (hc : c.toNat < 0x61) :
    q.count c ≤ line.count c := by
  obtain ⟨p, hwords, hpattern⟩ := exists_words_of_addedRule? h
  obtain rfl : q = lower p := String.ofList_inj.1 (Option.some.inj (hq.symm.trans hpattern))
  have hp : p.Sublist line :=
    ((((List.sublist_append_left p _).cons ',').trans (List.sublist_append_right _ _)).trans
      hwords).trans (strip_isInfix line).sublist
  exact (count_lower_le hc p).trans (hp.count_le c)

/-- **A line that adds a rule is no shorter than the line of the rule**, once it is trimmed. -/
theorem length_line_le (h : addedRule? line = some rule) (hdotted : '\u0130' ∉ line) :
    rule.line.toList.length ≤ (strip line).length := by
  obtain ⟨p, hwords, hpattern⟩ := exists_words_of_addedRule? h
  have hp : '\u0130' ∉ p := by
    intro hmem
    exact hdotted ((strip_isInfix line).subset (hwords.subset (by simp [hmem])))
  have hlength := hwords.length_le
  rw [Rule.toList_line hpattern]
  simp only [List.length_append, List.length_cons, List.length_nil, length_lower hp] at hlength ⊢
  omega

end

end SocksRouter
