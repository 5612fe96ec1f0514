import SocksRouter.Proofs.Rule.Dump

/-!
# No pattern reaches beyond its rule

A rule can be built with any pattern, also one with commas, line breaks or the text of other rules
in it. Such a pattern is written into the text of a rule set as it is, so that its line may be read
as several lines. `parseConfig_dump_of_make` says what becomes of it: the rule is read back with its
pattern trimmed, or it is not read back at all, and every other rule is read as if it were not
there.

What carries this is that patterns are kept in lower case, while every word for a kind or an action
and every header has a capital (`RuleKind.ofToken?_eq_none`, `Action.ofToken?_eq_none`). So none of
the lines that a pattern makes is a header or a rule: the first has no word for an action at its
end, the last none for a kind at its beginning (`Reading.agrees_step_of_comma`), and those between
have neither (`Reading.agrees_step_of_isLowText`).
-/

namespace SocksRouter

open Text

/-! ### Words and headers have capitals -/

/-- A text in lower case. -/
def IsLowText (s : List Char) : Prop :=
  ∀ c ∈ s, IsLow c

theorem IsLowText.mono {s t : List Char} (h : IsLowText s) (hsub : t ⊆ s) : IsLowText t :=
  fun c hc ↦ h c (hsub hc)

instance (s : List Char) : Decidable (IsLowText s) :=
  List.decidableBAll IsLow s

theorem RuleKind.ofToken?_eq_none {word : List Char} (h : IsLowText word) :
    RuleKind.ofToken? (String.ofList word) = none := by
  have htoken : ∀ kind : RuleKind, ¬IsLowText kind.token.toList := by
    intro kind
    cases kind <;> decide +kernel
  rw [ofToken?, List.find?_eq_none]
  intro kind _ heq
  have hword : kind.token = String.ofList word := by simpa using heq
  exact htoken kind (by rwa [hword, String.toList_ofList])

theorem Action.ofToken?_eq_none {word : List Char} (h : IsLowText word) :
    Action.ofToken? (String.ofList word) = none := by
  have htoken : ∀ action : Action, ¬IsLowText action.token.toList := by
    intro action
    cases action <;> decide +kernel
  rw [ofToken?, List.find?_eq_none]
  intro action _ heq
  have hword : action.token = String.ofList word := by simpa using heq
  exact htoken action (by rwa [hword, String.toList_ofList])

/-- A header has a capital in it and no comma. -/
theorem lineKind_ne_header {line : List Char} (h : IsLowText line ∨ ',' ∈ line)
    (name : ConfigSection) : lineKind line ≠ .header name := by
  have hgeneral : ¬(IsLowText "[General]".toList ∨ ',' ∈ "[General]".toList) := by decide +kernel
  have hrule : ¬(IsLowText "[Rule]".toList ∨ ',' ∈ "[Rule]".toList) := by decide +kernel
  have hne : line ≠ "[General]".toList ∧ line ≠ "[Rule]".toList :=
    ⟨fun heq ↦ hgeneral (heq ▸ h), fun heq ↦ hrule (heq ▸ h)⟩
  rw [lineKind, if_neg hne.1, if_neg hne.2]
  split <;> simp

/-- A line is no rule if its first field is in lower case, for want of a kind, or its last one, for
want of an action. -/
theorem parseLine_eq_none {line : List Char}
    (h : (∀ field ∈ (fields (· == ',') line).head?, IsLowText field) ∨
      ∀ field ∈ (fields (· == ',') line).getLast?, IsLowText field) :
    (parseLine line).1 = none := by
  have hkind : ∀ {field}, IsLowText field →
      RuleKind.ofToken? (String.ofList (strip field)) = none :=
    fun hfield ↦ RuleKind.ofToken?_eq_none (hfield.mono (strip_isInfix _).subset)
  have haction : ∀ {field}, IsLowText field →
      Action.ofToken? (String.ofList (strip field)) = none :=
    fun hfield ↦ Action.ofToken?_eq_none (hfield.mono (strip_isInfix _).subset)
  rw [parseLine]
  generalize fields (· == ',') line = pieces at h
  rcases pieces with - | ⟨kind, - | ⟨second, - | ⟨third, - | more⟩⟩⟩
  · rfl
  · rfl
  · simp only [List.map_cons, List.map_nil]
    rcases h with h | h
    · rw [hkind (h kind rfl)]
    · rw [haction (h second rfl)]
      split <;> simp_all
  · simp only [List.map_cons, List.map_nil]
    rcases h with h | h
    · rw [hkind (h kind rfl)]
    · rw [haction (h third rfl)]
      split <;> simp_all
  · rfl

/-! ### Lines that change nothing -/

namespace Reading

variable {reading reading' reading'' : Reading} {line : List Char}

theorem Agrees.trans (h : reading.Agrees reading') (h' : reading'.Agrees reading'') :
    reading.Agrees reading'' :=
  ⟨h.current_eq.trans h'.current_eq, h.set_eq.trans h'.set_eq⟩

/-- A line that is neither a header nor a rule changes nothing that later lines depend on. -/
theorem agrees_step_of_not_rule (hheader : ∀ name, lineKind (strip line) ≠ .header name)
    (hrule : (parseLine (strip line)).1 = none) (reading : Reading) (n : Nat) :
    (reading.step n line).Agrees reading := by
  rw [step]
  split
  · exact ⟨rfl, rfl⟩
  · rename_i name hname
    exact absurd hname (hheader name)
  · split
    · rw [content]
      split
      · exact ⟨rfl, rfl⟩
      · rename_i heq
        rw [heq] at hrule
        contradiction
    · exact ⟨rfl, rfl⟩

/-- Neither do any number of such lines. -/
theorem agrees_run {ls : List (List Char)}
    (h : ∀ line ∈ ls, ∀ (reading : Reading) n, (reading.step n line).Agrees reading)
    (reading : Reading) (n : Nat) : (reading.run n ls).Agrees reading := by
  induction ls generalizing reading n with
  | nil => exact ⟨rfl, rfl⟩
  | cons line rest ih =>
    have hrest := ih (fun l hl ↦ h l (List.mem_cons_of_mem _ hl)) (reading.step n line) (n + 1)
    exact hrest.trans (h line List.mem_cons_self reading n)

/-- A line in lower case changes nothing. -/
theorem agrees_step_of_isLowText (h : IsLowText line) (reading : Reading) (n : Nat) :
    (reading.step n line).Agrees reading := by
  have hstrip : IsLowText (strip line) := h.mono (strip_isInfix line).subset
  refine agrees_step_of_not_rule (lineKind_ne_header (.inl hstrip))
    (parseLine_eq_none (.inl fun field hfield ↦ ?_)) reading n
  have hmem := List.mem_of_mem_head? hfield
  exact hstrip.mono fun c hc ↦ (not_separator_of_mem_fields hmem c hc).1

/-- Neither does a line that is in lower case before one of its commas or behind it. -/
theorem agrees_step_of_comma {before after : List Char} (h : IsLowText before ∨ IsLowText after)
    (reading : Reading) (n : Nat) : (reading.step n (before ++ ',' :: after)).Agrees reading := by
  have hstrip : strip (before ++ ',' :: after) =
      before.dropWhile isBlank ++ ',' :: stripEnd after := strip_append (by decide) after
  have hfields : fields (· == ',') (strip (before ++ ',' :: after)) =
      fields (· == ',') (before.dropWhile isBlank) ++ fields (· == ',') (stripEnd after) := by
    rw [hstrip, fields_append (by decide)]
  refine agrees_step_of_not_rule (lineKind_ne_header (.inr (by simp [hstrip])))
    (parseLine_eq_none ?_) reading n
  rw [hfields, List.head?_append_of_ne_nil _ (fields_ne_nil _ _),
    List.getLast?_append_of_ne_nil _ (fields_ne_nil _ _)]
  refine h.imp (fun hbefore field hfield ↦ ?_) fun hafter field hfield ↦ ?_
  · have hmem := List.mem_of_mem_head? hfield
    exact hbefore.mono fun c hc ↦
      (List.dropWhile_suffix isBlank).subset (not_separator_of_mem_fields hmem c hc).1
  · have hmem := List.mem_of_mem_getLast? hfield
    exact hafter.mono fun c hc ↦
      (stripEnd_isPrefix after).subset (not_separator_of_mem_fields hmem c hc).1

end Reading

/-! ### The lines of one rule -/

/-- What is read back of a rule: the rule with its pattern trimmed, unless the pattern has a comma
or a line break in it or nothing but blanks. -/
def Rule.readBack? (rule : Rule) : Option Rule :=
  let p := rule.patternText.toList
  if ',' ∈ p ∨ p.any isLineBreak ∨ p.all isBlank then none
  else some { rule with pattern := some (String.ofList (strip p)) }

theorem Rule.kind_ne_final_of_mem_readBack? {rule : Rule} (h : rule.kind ≠ .final) :
    ∀ kept ∈ rule.readBack?, kept.kind ≠ .final := by
  intro kept hkept
  rw [readBack?] at hkept
  split at hkept
  · contradiction
  · rwa [← Option.some.inj hkept]

/-- A rule of the ordered list whose pattern is as it is kept, in lower case. -/
def Rule.IsStored (rule : Rule) : Prop :=
  rule.kind ≠ .final ∧ ∃ p, rule.pattern = some (String.ofList p) ∧ p ≠ [] ∧ IsLowText p

theorem Rule.toList_line {rule : Rule} {p : List Char}
    (h : rule.pattern = some (String.ofList p)) :
    rule.line.toList =
      (rule.kind.token.toList ++ [',']) ++ (p ++ (',' :: rule.action.token.toList)) := by
  simp [Rule.line, h]

theorem RuleKind.not_isLineBreak_beginning (kind : RuleKind) :
    ∀ c ∈ kind.token.toList ++ [','], isLineBreak c = false :=
  List.forall_mem_append.2
    ⟨kind.isPlainWord_token.not_isLineBreak, List.forall_mem_singleton.2 (by decide)⟩

theorem Action.not_isLineBreak_end (action : Action) :
    ∀ c ∈ ',' :: action.token.toList, isLineBreak c = false :=
  List.forall_mem_cons.2 ⟨by decide, action.isPlainWord_token.not_isLineBreak⟩

theorem Rule.readBack?_eq {rule : Rule} {p : List Char}
    (h : rule.pattern = some (String.ofList p)) :
    rule.readBack? =
      if ',' ∈ p ∨ p.any isLineBreak ∨ strip p = [] then none
      else some { rule with pattern := some (String.ofList (strip p)) } := by
  have hp : rule.patternText.toList = p := by simp [Rule.patternText, h]
  rw [Rule.readBack?, hp]
  simp only [strip_eq_nil_iff, List.all_eq_true]

theorem IsPlainWord.fields_eq {word : List Char} (h : IsPlainWord word) :
    fields (· == ',') word = [word] :=
  fields_of_not_mem h.comma_not_mem

/-- **A rule on one line is read back**, with its pattern trimmed, unless that has a comma in it or
only blanks. -/
theorem parseLine_line {rule : Rule} {p : List Char} (hkind : rule.kind ≠ .final)
    (hpattern : rule.pattern = some (String.ofList p)) (hlow : IsLowText p)
    (hbreak : ∀ c ∈ p, isLineBreak c = false) :
    (parseLine rule.line.toList).1 = rule.readBack? := by
  have hkindWord := rule.kind.isPlainWord_token
  have hactionWord := rule.action.isPlainWord_token
  have hfields : fields (· == ',') rule.line.toList =
      rule.kind.token.toList :: (fields (· == ',') p ++ [rule.action.token.toList]) := by
    rw [Rule.toList_line hpattern, List.append_assoc, List.singleton_append,
      fields_append (by decide), fields_append (by decide), hkindWord.fields_eq,
      hactionWord.fields_eq]
    rfl
  have hclean : p.any isLineBreak = false := List.any_eq_false.2 fun c hc ↦ by simp [hbreak c hc]
  rw [Rule.readBack?_eq hpattern, parseLine, hfields]
  by_cases hcomma : ',' ∈ p
  · -- Each side of the comma has a field of its own, which makes four fields or more.
    obtain ⟨before, after, rfl⟩ := List.append_of_mem hcomma
    obtain ⟨first, more, hbefore⟩ := List.exists_cons_of_ne_nil (fields_ne_nil (· == ',') before)
    obtain ⟨second, rest, hafter⟩ := List.exists_cons_of_ne_nil (fields_ne_nil (· == ',') after)
    rw [fields_append (by decide), hbefore, hafter, if_pos (.inl hcomma)]
    rcases more with - | ⟨d, more⟩
    · rcases rest with - | ⟨e, rest⟩ <;> rfl
    · rcases more with - | ⟨e, more⟩ <;> rfl
  · have hpieces : fields (· == ',') p = [p] := fields_of_not_mem hcomma
    have hlower : lower (strip p) = strip p :=
      lowerAfter_eq_self (hlow.mono (strip_isInfix p).subset)
    simp only [hpieces, List.singleton_append, List.map_cons, List.map_nil,
      strip_eq_self hkindWord.isTrimmed, strip_eq_self hactionWord.isTrimmed,
      String.ofList_toList, RuleKind.ofToken?_token, Action.ofToken?_token]
    by_cases hblank : strip p = []
    · rw [if_pos (.inr (.inr hblank))]
      split
      · rename_i hmake
        exact absurd (String.ofList_eq_empty_iff.2 hblank) (Rule.make_some_eq_ok_iff.1 hmake).2.1
      · rfl
    · have hmake : Rule.make rule.kind (some (String.ofList (strip p))) rule.action =
          .ok { rule with pattern := some (String.ofList (strip p)) } := by
        refine Rule.make_some_eq_ok_iff.2 ⟨hkind, mt String.ofList_eq_empty_iff.1 hblank, ?_⟩
        rw [String.toList_ofList, hlower]
      rw [hmake, if_neg (by simp [hcomma, hclean, hblank])]

namespace Reading

variable {reading : Reading}

/-- A line of the rule section adds the rule that is read from it. -/
theorem agrees_step_of_parseLine {line : List Char} {rule? : Option Rule}
    (hstrip : strip line = line) (hkind : lineKind line = .content)
    (hcurrent : reading.current = .rule) (hparse : (parseLine line).1 = rule?)
    (hfinal : ∀ rule ∈ rule?, rule.kind ≠ .final) (n : Nat) :
    (reading.step n line).Agrees { reading with
      set := ⟨reading.set.rules ++ rule?.toList, reading.set.default⟩ } := by
  subst hparse
  rw [step, hstrip, hkind]
  simp only [if_pos hcurrent, content]
  rcases hparse : parseLine line with ⟨- | rule, notices⟩
  · exact ⟨rfl, by simp⟩
  · have hrule : rule.kind ≠ .final := hfinal rule (by rw [hparse]; rfl)
    exact ⟨rfl, by simp [hrule]⟩

/-- A rule on one line adds what is read back of it. -/
theorem agrees_run_line_of_not_isLineBreak {rule : Rule} {p : List Char}
    (hkind : rule.kind ≠ .final) (hpattern : rule.pattern = some (String.ofList p))
    (hlow : IsLowText p) (hbreak : ∀ c ∈ p, isLineBreak c = false)
    (hcurrent : reading.current = .rule) (n : Nat) :
    (reading.run n (lines (rule.line.toList ++ ['\n']))).Agrees { reading with
      set := ⟨reading.set.rules ++ rule.readBack?.toList, reading.set.default⟩ } := by
  have hkindWord := rule.kind.isPlainWord_token
  have hactionWord := rule.action.isPlainWord_token
  have hline : rule.line.toList =
      rule.kind.token.toList ++ ((',' :: p ++ [',']) ++ rule.action.token.toList) := by
    rw [Rule.toList_line hpattern]
    simp
  have hstrip : strip rule.line.toList = rule.line.toList := by
    rw [hline]
    exact hkindWord.strip_append hactionWord _
  have hcontent : lineKind rule.line.toList = .content := by
    rw [hline]
    exact hkindWord.lineKind_append _
  have hclean : ∀ c ∈ rule.line.toList, isLineBreak c = false := by
    rw [Rule.toList_line hpattern]
    exact List.forall_mem_append.2 ⟨rule.kind.not_isLineBreak_beginning,
      List.forall_mem_append.2 ⟨hbreak, rule.action.not_isLineBreak_end⟩⟩
  rw [lines_newline hclean]
  exact agrees_step_of_parseLine hstrip hcontent hcurrent
    (parseLine_line hkind hpattern hlow hbreak) (Rule.kind_ne_final_of_mem_readBack? hkind) n

/-- **A rule on several lines adds nothing.** Each of the lines holds a part of the pattern, and
none has both of the words around it. -/
theorem agrees_run_line_of_isLineBreak {rule : Rule} {p : List Char}
    (hpattern : rule.pattern = some (String.ofList p)) (hlow : IsLowText p)
    (hbreak : ¬∀ c ∈ p, isLineBreak c = false) (reading : Reading) (n : Nat) :
    (reading.run n (lines (rule.line.toList ++ ['\n']))).Agrees reading := by
  have hbroken := (isBroken_lines rule.kind.not_isLineBreak_beginning
    rule.action.not_isLineBreak_end (by simp) p).resolve_left hbreak
  obtain ⟨first, middle, last, hlines, hsub⟩ := hbroken
  simp only [List.forall_mem_cons] at hsub
  obtain ⟨hfirst, hlast, hmiddle⟩ := hsub
  rw [Rule.toList_line hpattern, List.append_assoc _ _ ['\n'], List.append_assoc p, hlines]
  refine agrees_run (fun line hmem ↦ ?_) reading n
  simp only [List.mem_cons, List.mem_append, List.not_mem_nil, or_false] at hmem
  rcases hmem with rfl | hmem | rfl
  · rw [List.append_assoc, List.singleton_append]
    exact agrees_step_of_comma (.inr (hlow.mono hfirst))
  · exact agrees_step_of_isLowText (hlow.mono (hmiddle line hmem))
  · exact agrees_step_of_comma (.inl (hlow.mono hlast))

/-- **The text of a rule adds what is read back of it**, however many lines it makes. -/
theorem agrees_run_line {rule : Rule} (h : rule.IsStored) (hcurrent : reading.current = .rule)
    (n : Nat) :
    (reading.run n (lines (rule.line.toList ++ ['\n']))).Agrees { reading with
      set := ⟨reading.set.rules ++ rule.readBack?.toList, reading.set.default⟩ } := by
  obtain ⟨hkind, p, hpattern, -, hlow⟩ := h
  by_cases hbreak : ∀ c ∈ p, isLineBreak c = false
  · exact agrees_run_line_of_not_isLineBreak hkind hpattern hlow hbreak hcurrent n
  · have hnone : rule.readBack? = none := by
      have hany : p.any isLineBreak = true := by simpa using hbreak
      rw [Rule.readBack?_eq hpattern, if_pos (.inr (.inl hany))]
    have hagrees := agrees_run_line_of_isLineBreak hpattern hlow hbreak reading n
    rw [hnone]
    exact hagrees.trans ⟨rfl, by simp⟩

/-- The texts of rules add what is read back of each, and what follows is read on from there. -/
theorem agrees_run_unlines {rules : List Rule} (h : ∀ rule ∈ rules, rule.IsStored)
    (hcurrent : reading.current = .rule) (n : Nat) (t : List Char) :
    (reading.run n (lines (unlines (rules.map fun rule ↦ rule.line.toList) ++ t))).Agrees
      (Reading.run { reading with
        set := ⟨reading.set.rules ++ rules.filterMap Rule.readBack?, reading.set.default⟩ }
        1 (lines t)) := by
  induction rules generalizing reading n with
  | nil =>
    have hagrees : reading.Agrees { reading with
        set := ⟨reading.set.rules ++ [], reading.set.default⟩ } := ⟨rfl, by simp⟩
    exact hagrees.run n 1 (lines t)
  | cons rule rest ih =>
    obtain ⟨hrule, hrest⟩ := List.forall_mem_cons.1 h
    have hlines : lines (unlines ((rule :: rest).map fun rule ↦ rule.line.toList) ++ t) =
        lines (rule.line.toList ++ ['\n']) ++
          lines (unlines (rest.map fun rule ↦ rule.line.toList) ++ t) := by
      rw [← lines_append_newline]
      simp [unlines]
    have hfirst := agrees_run_line hrule hcurrent n
    rw [hlines, run_append]
    refine (ih hrest (hfirst.current_eq.trans hcurrent) _).trans (Agrees.run ?_ 1 1 _)
    refine ⟨hfirst.current_eq, ?_⟩
    rw [hfirst.set_eq]
    cases hkept : rule.readBack? <;> simp [hkept]

end Reading

/-! ### The text of a rule set -/

/-- **The text of a rule set whose patterns are in lower case** is read back rule by rule. -/
theorem parseConfig_dump (set : RuleSet) (h : ∀ rule ∈ set.rules, rule.IsStored) :
    parseConfig set.dump = ⟨set.rules.filterMap Rule.readBack?, set.default⟩ := by
  have hdump : set.dump.toList = unlines ["[Rule]".toList] ++
      (unlines (set.rules.map fun rule ↦ rule.line.toList) ++
        (set.finalRule.line.toList ++ ['\n'])) := by
    rw [RuleSet.toList_dump]
    simp [RuleSet.dumpLines, unlines, List.flatMap_map]
  have hfinal : IsLineOf (Rule.ofFinal set.default) set.finalRule.line.toList :=
    isLineOf_line_ofFinal set.default
  rw [parseConfig, readConfig, hdump,
    lines_unlines_append (List.forall_mem_singleton.2 not_isLineBreak_ruleHeader),
    List.singleton_append, Reading.run, Reading.step_ruleHeader,
    (Reading.agrees_run_unlines h rfl _ _).set_eq, lines_newline hfinal.not_isLineBreak,
    Reading.run, Reading.run, Reading.step_isLineOf hfinal rfl]
  simp [Rule.ofFinal]

theorem Rule.isStored_of_make {kind : RuleKind} {pattern : Option String} {action : Action}
    {rule : Rule} (h : Rule.make kind pattern action = .ok rule) (hkind : rule.kind ≠ .final) :
    rule.IsStored := by
  cases pattern with
  | none =>
    cases kind <;> simp only [Rule.make, reduceCtorEq, Except.ok.injEq] at h
    subst h
    contradiction
  | some p =>
    obtain ⟨hkind, hne, rfl⟩ := Rule.make_some_eq_ok_iff.1 h
    refine ⟨hkind, _, rfl, ?_, isLow_of_mem_lowerAfter⟩
    exact mt lower_eq_nil_iff.1 (mt String.toList_eq_nil_iff.1 hne)

theorem RuleSet.eq_of_make {rules : List Rule} {default : Action} {set : RuleSet}
    (h : RuleSet.make rules default = .ok set) :
    set = ⟨rules, default⟩ ∧ ∀ rule ∈ rules, rule.kind ≠ .final := by
  rw [make] at h
  split at h
  · contradiction
  · rename_i hany
    exact ⟨(Except.ok.inj h).symm, by simpa using hany⟩

/-- A rule is read back as it is if its pattern has neither a comma nor a break and no blanks at its
ends. -/
theorem Rule.readBack?_eq_some_iff {rule : Rule} (h : rule.IsStored) :
    rule.readBack? = some rule ↔
      ∀ p ∈ rule.pattern, ',' ∉ p.toList ∧ (∀ c ∈ p.toList, isLineBreak c = false) ∧
        strip p.toList = p.toList := by
  obtain ⟨kind, pattern, action⟩ := rule
  obtain ⟨-, p, rfl : pattern = _, hne, -⟩ := h
  have hrule : (⟨kind, some (String.ofList (strip p)), action⟩ : Rule) =
      ⟨kind, some (String.ofList p), action⟩ ↔ strip p = p := by
    simp [String.ofList_inj]
  simp only [Option.mem_some_iff, forall_eq', String.toList_ofList]
  rw [@Rule.readBack?_eq ⟨kind, some (String.ofList p), action⟩ p rfl]
  split
  · rename_i h
    refine iff_of_false nofun fun ⟨hcomma, hbreak, hstrip⟩ ↦ ?_
    rcases h with h | h | h
    · exact hcomma h
    · obtain ⟨c, hc, h⟩ := List.any_eq_true.1 h
      rw [hbreak c hc] at h
      contradiction
    · exact hne (hstrip.symm.trans h)
  · rename_i h
    obtain ⟨hcomma, hbreak, -⟩ : ',' ∉ p ∧ (∀ c ∈ p, isLineBreak c = false) ∧ strip p ≠ [] := by
      simpa using h
    rw [Option.some.injEq, hrule]
    exact ⟨fun hstrip ↦ ⟨hcomma, hbreak, hstrip⟩, fun hclean ↦ hclean.2.2⟩

theorem filterMap_eq_self_iff {α : Type} {f : α → Option α} {as : List α} :
    as.filterMap f = as ↔ ∀ a ∈ as, f a = some a := by
  induction as with
  | nil => simp
  | cons a rest ih =>
    rw [List.forall_mem_cons, ← ih]
    rcases ha : f a with - | b
    · -- What is dropped leaves too few.
      have hlength := List.length_filterMap_le f rest
      rw [List.filterMap_cons_none ha]
      refine iff_of_false (fun h ↦ ?_) (fun h ↦ nomatch h.1)
      rw [h, List.length_cons] at hlength
      omega
    · rw [List.filterMap_cons_some ha, List.cons.injEq, Option.some.injEq]

/-- **No pattern reaches beyond its rule.** Whatever the rules of a set were built with, the text of
the set is read as a set with the same action for everything else, and with those of its rules, in
order, whose patterns have no comma and no line break in them and something else than blanks; their
patterns are trimmed. So the set is read back as it is just when no pattern has a comma, a line
break, or blanks at its ends. -/
theorem parseConfig_dump_of_make {rules : List Rule} {default : Action} {set : RuleSet}
    (hrules : ∀ rule ∈ rules, ∃ kind pattern action, Rule.make kind pattern action = .ok rule)
    (hset : RuleSet.make rules default = .ok set) :
    parseConfig set.dump = ⟨rules.filterMap Rule.readBack?, default⟩ ∧
      (parseConfig set.dump = set ↔
        ∀ rule ∈ rules, ∀ p ∈ rule.pattern, ',' ∉ p.toList ∧
          (∀ c ∈ p.toList, isLineBreak c = false) ∧ strip p.toList = p.toList) := by
  obtain ⟨rfl, hkind⟩ := RuleSet.eq_of_make hset
  have hstored : ∀ rule ∈ rules, rule.IsStored := by
    intro rule hrule
    obtain ⟨kind, pattern, action, hmake⟩ := hrules rule hrule
    exact Rule.isStored_of_make hmake (hkind rule hrule)
  have hdump := parseConfig_dump ⟨rules, default⟩ hstored
  refine ⟨hdump, ?_⟩
  rw [hdump, RuleSet.mk.injEq, and_iff_left rfl, filterMap_eq_self_iff]
  exact forall₂_congr fun rule hrule ↦ Rule.readBack?_eq_some_iff (hstored rule hrule)

/-- A set with rules for a section, a rule and another final rule inside of a pattern, a rule with a
field too many, and one for blanks: only the rule between them is read back. -/
theorem parseConfig_dump_hostile :
    let rules : List Rule :=
      [⟨.domain, some "a\r\n[general]\ndomain,b,direct\u2028final,proxy", .reject⟩,
        ⟨.domainSuffix, some " example.com\t", .direct⟩, ⟨.domainKeyword, some "c,reject", .proxy⟩,
        ⟨.geoIp, some " ", .direct⟩]
    (∀ rule ∈ rules, ∃ kind pattern action, Rule.make kind pattern action = .ok rule) ∧
      RuleSet.make rules .reject = .ok ⟨rules, .reject⟩ ∧
      parseConfig (⟨rules, .reject⟩ : RuleSet).dump =
        ⟨[⟨.domainSuffix, some "example.com", .direct⟩], .reject⟩ := by
  intro rules
  have hrules : ∀ rule ∈ rules,
      ∃ kind pattern action, Rule.make kind pattern action = .ok rule := by
    simp only [rules, List.forall_mem_cons]
    exact ⟨⟨.domain, some "A\r\n[General]\nDOMAIN,b,DIRECT\u2028FINAL,Proxy", .reject, by
        decide +kernel⟩, ⟨.domainSuffix, some " Example.COM\t", .direct, by decide +kernel⟩,
      ⟨.domainKeyword, some "C,REJECT", .proxy, by decide +kernel⟩,
      ⟨.geoIp, some " ", .direct, by decide +kernel⟩, nofun⟩
  have hset : RuleSet.make rules .reject = .ok ⟨rules, .reject⟩ := by decide +kernel
  refine ⟨hrules, hset, (parseConfig_dump_of_make hrules hset).1.trans ?_⟩
  decide +kernel

end SocksRouter
