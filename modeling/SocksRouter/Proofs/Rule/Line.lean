import SocksRouter.Rule.Config
import SocksRouter.Proofs.Text.Fields
import SocksRouter.Proofs.Text.Lines
import SocksRouter.Proofs.Text.Lowercase

/-!
# Rule lines, written and read

A line that is read as a rule has the words of the rule in its fields (`fields_of_parseLine`). So a
rule that was read from a line has a *plain* pattern: not empty, in lower case, without a comma,
without a line break, and without blanks at its ends (`isPlain_of_parseLine`). These are the facts
that writing needs, because such a rule is read from its own line as it is (`isLineOf_line`).

Lower-casing comes last when a pattern is read, so a plain pattern rests on what it keeps: it brings
no blank and no comma into a text, it leaves the ends alone, and done twice it does no more than
once.
-/

namespace SocksRouter

open Text

/-! ### Plain patterns -/

/-- A pattern that can stand in a line of a rule file. -/
structure IsPlainPattern (p : List Char) : Prop where
  /-- There is something to compare with. -/
  ne_nil : p ≠ []
  /-- Its ends would survive trimming. -/
  isTrimmed : IsTrimmed p
  /-- It is one field. -/
  comma_not_mem : ',' ∉ p
  /-- It is on one line. -/
  not_isLineBreak : ∀ c ∈ p, isLineBreak c = false
  /-- It is in lower case. -/
  lower_eq_self : lower p = p

/-- A rule of the ordered list whose pattern can stand in a line. -/
def Rule.IsPlain (rule : Rule) : Prop :=
  rule.kind ≠ .final ∧ ∃ p, rule.pattern = some (String.ofList p) ∧ IsPlainPattern p

theorem isBlank_of_isLineBreak {c : Char} (h : isLineBreak c = true) : isBlank c = true := by
  simp only [isLineBreak, List.mem_cons, List.not_mem_nil, or_false, decide_eq_true_eq] at h
  rcases h with h | h | h | h | h | h | h | h | h | h <;> rw [isBlank, h] <;> decide

/-- Lower-casing makes a field of a line a plain pattern. -/
theorem isPlainPattern_lower {p : List Char} (hne : p ≠ []) (htrimmed : IsTrimmed p)
    (hcomma : ',' ∉ p) (hbreak : ∀ c ∈ p, isLineBreak c = false) : IsPlainPattern (lower p) where
  ne_nil := mt lower_eq_nil_iff.1 hne
  isTrimmed := isTrimmed_lower htrimmed
  comma_not_mem hmem := by
    rcases mem_lower hmem with h | h
    · exact hcomma h
    · exact h.2 rfl
  not_isLineBreak c hmem := by
    rcases mem_lower hmem with h | h
    · exact hbreak c h
    · rw [Bool.eq_false_iff]
      intro hc
      rw [IsInk, isBlank_of_isLineBreak hc] at h
      exact absurd h.1 (by decide)
  lower_eq_self := lower_lower p

/-! ### Reading a line -/

theorem Rule.make_some_eq_ok_iff {kind : RuleKind} {p : String} {action : Action} {rule : Rule} :
    Rule.make kind (some p) action = .ok rule ↔
      kind ≠ .final ∧ p ≠ "" ∧ rule = ⟨kind, some (String.ofList (lower p.toList)), action⟩ := by
  have hempty : p.isEmpty = true ↔ p = "" := String.isEmpty_iff
  cases kind with
  | final => simp [Rule.make]
  | domain | domainSuffix | domainKeyword | ipCidr | geoIp =>
    simp only [Rule.make, hempty]
    by_cases hp : p = ""
    · simp [hp]
    · simp [hp, eq_comm]

/-- A field of a line, trimmed, has nothing in it that separates fields or lines. -/
theorem mem_strip_field {line field : List Char} (hfield : field ∈ fields (· == ',') line)
    (hbreak : ∀ c ∈ line, isLineBreak c = false) :
    ∀ c ∈ strip field, c ≠ ',' ∧ isLineBreak c = false := by
  intro c hc
  obtain ⟨hline, hcomma⟩ := not_separator_of_mem_fields hfield c ((strip_isInfix field).subset hc)
  exact ⟨by simpa using hcomma, hbreak c hline⟩

theorem RuleKind.ofToken?_eq_some_iff {word : String} {kind : RuleKind} :
    RuleKind.ofToken? word = some kind ↔ word = kind.token := by
  refine ⟨fun h ↦ ?_, fun h ↦ h ▸ ofToken?_token kind⟩
  have hfound := List.find?_some h
  exact (of_decide_eq_true hfound).symm

theorem Action.ofToken?_eq_some_iff {word : String} {action : Action} :
    Action.ofToken? word = some action ↔ word = action.token := by
  refine ⟨fun h ↦ ?_, fun h ↦ h ▸ ofToken?_token action⟩
  have hfound := List.find?_some h
  exact (of_decide_eq_true hfound).symm

/-- **The fields of a line that is read as a rule** are the word for a final rule and an action, or
a kind, a pattern and an action, with any blanks around them. -/
theorem fields_of_parseLine {line : List Char} {rule : Rule}
    (h : (parseLine line).1 = some rule) :
    (∃ first second action, fields (· == ',') line = [first, second] ∧
        String.ofList (strip first) = RuleKind.final.token ∧
        String.ofList (strip second) = action.token ∧ rule = Rule.ofFinal action) ∨
      ∃ first second third kind action, fields (· == ',') line = [first, second, third] ∧
        String.ofList (strip first) = kind.token ∧ String.ofList (strip third) = action.token ∧
        kind ≠ .final ∧ strip second ≠ [] ∧
        rule = ⟨kind, some (String.ofList (lower (strip second))), action⟩ := by
  rw [parseLine] at h
  split at h
  · rename_i kind action hwords
    obtain ⟨first, second, hfields, rfl, rfl⟩ : ∃ first second,
        fields (· == ',') line = [first, second] ∧ String.ofList (strip first) = kind ∧
          String.ofList (strip second) = action := by
      simpa [List.map_eq_cons_iff] using hwords
    split at h
    · rename_i action hkind haction
      exact .inl ⟨first, second, action, hfields, RuleKind.ofToken?_eq_some_iff.1 hkind,
        Action.ofToken?_eq_some_iff.1 haction, (Option.some.inj h).symm⟩
    · contradiction
  · rename_i kind pattern action hwords
    obtain ⟨first, second, third, hfields, rfl, rfl, rfl⟩ : ∃ first second third,
        fields (· == ',') line = [first, second, third] ∧ String.ofList (strip first) = kind ∧
          String.ofList (strip second) = pattern ∧ String.ofList (strip third) = action := by
      simpa [List.map_eq_cons_iff] using hwords
    split at h
    · rename_i kind action hkind haction
      split at h
      · rename_i made hmake
        obtain rfl := Option.some.inj h
        obtain ⟨hnotFinal, hne, rfl⟩ := Rule.make_some_eq_ok_iff.1 hmake
        rw [String.toList_ofList]
        exact .inr ⟨first, second, third, kind, action, hfields,
          RuleKind.ofToken?_eq_some_iff.1 hkind, Action.ofToken?_eq_some_iff.1 haction, hnotFinal,
          mt String.ofList_eq_empty_iff.2 hne, rfl⟩
      · contradiction
    · contradiction
  · contradiction

/-- **A rule that was read is plain**, unless it is the final one. -/
theorem isPlain_of_parseLine {line : List Char} (hbreak : ∀ c ∈ line, isLineBreak c = false)
    {rule : Rule} {notices : List ParseNotice} (h : parseLine line = (some rule, notices)) :
    rule.kind = .final ∨ rule.IsPlain := by
  obtain ⟨_, _, action, -, -, -, rfl⟩ |
    ⟨_, field, _, kind, action, hfields, -, -, hkind, hne, rfl⟩ :=
    fields_of_parseLine (congrArg Prod.fst h)
  · exact .inl rfl
  · have hmem : field ∈ fields (· == ',') line := by simp [hfields]
    have hclean := mem_strip_field hmem hbreak
    exact .inr ⟨hkind, _, rfl, isPlainPattern_lower hne (isTrimmed_strip field)
      (fun hcomma ↦ (hclean ',' hcomma).1 rfl) fun c hc ↦ (hclean c hc).2⟩

/-! ### Reading back what was written -/

/-- What makes a text the line of a rule. -/
structure IsLineOf (rule : Rule) (line : List Char) : Prop where
  /-- It is one line. -/
  not_isLineBreak : ∀ c ∈ line, isLineBreak c = false
  /-- It has no blanks at its ends. -/
  strip_eq_self : strip line = line
  /-- It is neither skipped nor a header. -/
  lineKind_eq : lineKind line = .content
  /-- The rule is read from it. -/
  parseLine_eq : parseLine line = (some rule, [])

/-- Whether a character separates nothing and starts neither a comment nor a header. -/
def isPlainChar (c : Char) : Bool :=
  !isBlank c && c != ',' && c != '#' && c != '['

/-- What is known of the words for kinds and actions. -/
structure IsPlainWord (word : List Char) : Prop where
  /-- There is a word. -/
  ne_nil : word ≠ []
  /-- It is made of nothing that would be taken for anything else. -/
  all_eq : word.all isPlainChar = true

theorem RuleKind.isPlainWord_token (kind : RuleKind) : IsPlainWord kind.token.toList := by
  cases kind <;> exact ⟨by decide, by decide⟩

theorem Action.isPlainWord_token (action : Action) : IsPlainWord action.token.toList := by
  cases action <;> exact ⟨by decide, by decide⟩

namespace IsPlainWord

variable {word first last : List Char}

theorem of_mem (h : IsPlainWord word) {c : Char} (hc : c ∈ word) :
    isBlank c = false ∧ c ≠ ',' ∧ c ≠ '#' ∧ c ≠ '[' := by
  simpa [isPlainChar, and_assoc] using List.all_eq_true.1 h.all_eq c hc

theorem isTrimmed (h : IsPlainWord word) : IsTrimmed word :=
  ⟨fun _ hc ↦ (h.of_mem (List.mem_of_mem_head? hc)).1,
    fun _ hc ↦ (h.of_mem (List.mem_of_mem_getLast? hc)).1⟩

theorem comma_not_mem (h : IsPlainWord word) : ',' ∉ word :=
  fun hc ↦ (h.of_mem hc).2.1 rfl

theorem not_isLineBreak (h : IsPlainWord word) : ∀ c ∈ word, isLineBreak c = false := by
  intro c hc
  rw [Bool.eq_false_iff]
  intro hbreak
  have hblank := (h.of_mem hc).1
  rw [isBlank_of_isLineBreak hbreak] at hblank
  contradiction

/-- A line from one word to another has no blanks at its ends, is not skipped and is no header. -/
theorem strip_append (hfirst : IsPlainWord first) (hlast : IsPlainWord last)
    (middle : List Char) : strip (first ++ (middle ++ last)) = first ++ (middle ++ last) := by
  refine strip_eq_self ⟨fun c hc ↦ hfirst.isTrimmed.1 c ?_, fun c hc ↦ hlast.isTrimmed.2 c ?_⟩
  · rwa [List.head?_append_of_ne_nil _ hfirst.ne_nil] at hc
  · rwa [← List.append_assoc, List.getLast?_append_of_ne_nil _ hlast.ne_nil] at hc

theorem lineKind_append (hfirst : IsPlainWord first) (rest : List Char) :
    lineKind (first ++ rest) = .content := by
  obtain ⟨c, more, rfl⟩ := List.exists_cons_of_ne_nil hfirst.ne_nil
  obtain ⟨-, -, hhash, hbracket⟩ := hfirst.of_mem List.mem_cons_self
  simp [lineKind, hhash, hbracket]

end IsPlainWord

/-- A line from one word to another is the line of the rule that is read from it. -/
theorem isLineOf_append {rule : Rule} {first middle last line : List Char}
    (hfirst : IsPlainWord first) (hlast : IsPlainWord last)
    (hmiddle : ∀ c ∈ middle, isLineBreak c = false) (hline : line = first ++ (middle ++ last))
    (hparse : parseLine line = (some rule, [])) : IsLineOf rule line := by
  subst hline
  refine ⟨fun c hc ↦ ?_, hfirst.strip_append hlast middle, hfirst.lineKind_append _, hparse⟩
  rcases List.mem_append.1 hc with hc | hc
  · exact hfirst.not_isLineBreak c hc
  rcases List.mem_append.1 hc with hc | hc
  · exact hmiddle c hc
  · exact hlast.not_isLineBreak c hc

/-- **A plain rule is read from its line.** -/
theorem isLineOf_line {rule : Rule} (h : rule.IsPlain) : IsLineOf rule rule.line.toList := by
  obtain ⟨hkind, p, hpattern, hp⟩ := h
  have hkindWord := rule.kind.isPlainWord_token
  have hactionWord := rule.action.isPlainWord_token
  have hline : rule.line.toList =
      rule.kind.token.toList ++ ((',' :: p ++ [',']) ++ rule.action.token.toList) := by
    simp [Rule.line, hpattern]
  have hfields : fields (· == ',') rule.line.toList =
      [rule.kind.token.toList, p, rule.action.token.toList] := by
    rw [hline, fields_eq_iff]
    refine ⟨by simp, ?_, by simp [List.intercalate]⟩
    simpa using ⟨hkindWord.comma_not_mem, hp.comma_not_mem, hactionWord.comma_not_mem⟩
  have hmake : Rule.make rule.kind (some (String.ofList p)) rule.action = .ok rule := by
    rw [Rule.make_some_eq_ok_iff]
    refine ⟨hkind, by simpa using hp.ne_nil, ?_⟩
    rw [String.toList_ofList, hp.lower_eq_self, ← hpattern]
  refine isLineOf_append hkindWord hactionWord (fun c hc ↦ ?_) hline ?_
  · simp only [List.mem_append, List.mem_cons, List.not_mem_nil, or_false] at hc
    rcases hc with (rfl | hc) | rfl
    · decide
    · exact hp.not_isLineBreak c hc
    · decide
  · simp only [parseLine, hfields, List.map_cons, List.map_nil,
      strip_eq_self hkindWord.isTrimmed, strip_eq_self hp.isTrimmed,
      strip_eq_self hactionWord.isTrimmed, String.ofList_toList, RuleKind.ofToken?_token,
      Action.ofToken?_token, hmake]

/-- The final rule is read from its line. -/
theorem isLineOf_line_ofFinal (action : Action) :
    IsLineOf (Rule.ofFinal action) (Rule.ofFinal action).line.toList := by
  have hkindWord := RuleKind.final.isPlainWord_token
  have hactionWord := action.isPlainWord_token
  have hline : (Rule.ofFinal action).line.toList =
      RuleKind.final.token.toList ++ ([','] ++ action.token.toList) := by
    simp [Rule.line, Rule.ofFinal]
  have hfields : fields (· == ',') (Rule.ofFinal action).line.toList =
      [RuleKind.final.token.toList, action.token.toList] := by
    rw [hline, fields_eq_iff]
    refine ⟨by simp, ?_, by simp [List.intercalate]⟩
    simpa using ⟨hkindWord.comma_not_mem, hactionWord.comma_not_mem⟩
  refine isLineOf_append hkindWord hactionWord (fun c hc ↦ ?_) hline ?_
  · rw [List.mem_singleton.1 hc]
    decide
  · simp only [parseLine, hfields, List.map_cons, List.map_nil,
      strip_eq_self hkindWord.isTrimmed, strip_eq_self hactionWord.isTrimmed,
      String.ofList_toList, RuleKind.ofToken?_token, Action.ofToken?_token]

end SocksRouter
