import SocksRouter.Proofs.Rule.Line

/-!
# A rule set, written down and read on

The text of a rule set says all that reading keeps of a file. So a file may be replaced by what it
was read as, and whatever is written behind it has the same meaning as before
(`parseConfig_dump_append`); in particular the text of a rule set is read as that rule set.

Three facts carry it.

* Later lines depend on the section and the rules read so far and on nothing else
  (`Reading.Agrees.run`), so not on what was noticed on the way or on the numbers of lines.
* The text of a rule set leads to the rule section with exactly these rules
  (`Reading.run_dumpLines`), provided that their patterns are plain.
* The patterns of a rule set that was read are plain (`isPlain_parseConfig`), an invariant of the
  steps of reading.
-/

namespace SocksRouter

open Text

namespace Reading

variable {reading reading' : Reading}

/-! ### What later lines depend on -/

/-- Two readings that agree in all that later lines depend on. -/
structure Agrees (reading reading' : Reading) : Prop where
  /-- They are in the same section. -/
  current_eq : reading.current = reading'.current
  /-- They have the same rules and the same action for everything else. -/
  set_eq : reading.set = reading'.set

/-- A line keeps readings in agreement, whatever its number. -/
theorem Agrees.step (h : reading.Agrees reading') (n m : Nat) (line : List Char) :
    (reading.step n line).Agrees (reading'.step m line) := by
  unfold Reading.step
  cases lineKind (strip line) with
  | skipped => exact h
  | header name => exact ⟨rfl, h.set_eq⟩
  | content =>
    simp only [h.current_eq]
    split
    · unfold Reading.content
      rcases parseLine (strip line) with ⟨- | rule, notices⟩
      · exact ⟨h.current_eq, h.set_eq⟩
      · exact ⟨h.current_eq, by simp only [h.set_eq]⟩
    · exact h

/-- **Readings that agree go on to agree.** -/
theorem Agrees.run (h : reading.Agrees reading') (n m : Nat) (ls : List (List Char)) :
    (reading.run n ls).Agrees (reading'.run m ls) := by
  induction ls generalizing reading reading' n m with
  | nil => exact h
  | cons line rest ih => exact ih (h.step n m line) (n + 1) (m + 1)

theorem run_append (reading : Reading) (n : Nat) (ls more : List (List Char)) :
    reading.run n (ls ++ more) = (reading.run n ls).run (n + ls.length) more := by
  induction ls generalizing reading n with
  | nil => rfl
  | cons line rest ih =>
    rw [List.cons_append, run, run, ih, List.length_cons, Nat.add_right_comm, Nat.add_assoc]

theorem step_ruleHeader (reading : Reading) (n : Nat) :
    reading.step n "[Rule]".toList = { reading with current := .rule } := by
  have hkind : lineKind (strip "[Rule]".toList) = .header .rule := by decide
  rw [step, hkind]

/-! ### Reading the lines of a rule set -/

/-- A rule line adds its rule to the list, or puts the action in place if the rule is final. -/
theorem step_isLineOf {rule : Rule} {line : List Char} (hline : IsLineOf rule line)
    (hcurrent : reading.current = .rule) (n : Nat) :
    reading.step n line =
      { reading with
        set :=
          if rule.kind = .final then ⟨reading.set.rules, rule.action⟩
          else ⟨reading.set.rules ++ [rule], reading.set.default⟩ } := by
  rw [step, hline.strip_eq_self, hline.lineKind_eq]
  simp [hcurrent, content, hline.parseLine_eq]

theorem run_lines {rules : List Rule} (hrules : ∀ rule ∈ rules, rule.IsPlain)
    (reading : Reading) (hcurrent : reading.current = .rule) (n : Nat) :
    reading.run n (rules.map fun rule ↦ rule.line.toList) =
      { reading with set := ⟨reading.set.rules ++ rules, reading.set.default⟩ } := by
  induction rules generalizing reading n with
  | nil => simp [run]
  | cons rule rest ih =>
    have hrule := hrules rule List.mem_cons_self
    have hrest := fun r hr ↦ hrules r (List.mem_cons_of_mem _ hr)
    rw [List.map_cons, run, step_isLineOf (isLineOf_line hrule) hcurrent, if_neg hrule.1]
    refine (ih hrest _ ?_ (n + 1)).trans ?_
    · exact hcurrent
    · simp

/-- The lines of a rule set lead to the rule section, with exactly that set read. -/
theorem run_dumpLines {set : RuleSet} (hset : ∀ rule ∈ set.rules, rule.IsPlain) (n : Nat) :
    ({} : Reading).run n (set.dumpLines.map String.toList) = { current := .rule, set } := by
  have hlines : set.dumpLines.map String.toList =
      "[Rule]".toList :: ((set.rules.map fun rule ↦ rule.line.toList) ++
        [set.finalRule.line.toList]) := by
    simp [RuleSet.dumpLines]
  rw [hlines, run, step_ruleHeader, run_append, run_lines hset _ rfl, run, run, RuleSet.finalRule,
    step_isLineOf (isLineOf_line_ofFinal set.default) rfl]
  rfl

/-! ### Plain patterns throughout -/

/-- A line leaves the patterns of the rules plain. -/
theorem isPlain_step (hreading : ∀ rule ∈ reading.set.rules, rule.IsPlain) {line : List Char}
    (hbreak : ∀ c ∈ line, isLineBreak c = false) (n : Nat) :
    ∀ rule ∈ (reading.step n line).set.rules, rule.IsPlain := by
  unfold Reading.step
  cases lineKind (strip line) with
  | skipped => exact hreading
  | header name => exact hreading
  | content =>
    simp only
    split
    · unfold Reading.content
      split
      · exact hreading
      · rename_i rule notices hrule
        have hplain :=
          isPlain_of_parseLine (fun c hc ↦ hbreak c ((strip_isInfix line).subset hc)) hrule
        intro r hr
        by_cases hfinal : rule.kind = .final
        · exact hreading r (by simpa [hfinal] using hr)
        · rcases (by simpa [hfinal] using hr : r ∈ reading.set.rules ∨ r = rule) with hr | rfl
          · exact hreading r hr
          · exact hplain.resolve_left hfinal
    · exact hreading

theorem isPlain_run (hreading : ∀ rule ∈ reading.set.rules, rule.IsPlain) {ls : List (List Char)}
    (hbreak : ∀ l ∈ ls, ∀ c ∈ l, isLineBreak c = false) (n : Nat) :
    ∀ rule ∈ (reading.run n ls).set.rules, rule.IsPlain := by
  induction ls generalizing reading n with
  | nil => exact hreading
  | cons line rest ih =>
    exact ih (isPlain_step hreading (hbreak line List.mem_cons_self) n)
      (fun l hl ↦ hbreak l (List.mem_cons_of_mem _ hl)) (n + 1)

end Reading

/-- **Every pattern that was read is plain.** -/
theorem isPlain_parseConfig (text : String) : ∀ rule ∈ (parseConfig text).rules, rule.IsPlain :=
  Reading.isPlain_run (by simp) (fun _ hl ↦ not_isLineBreak_of_mem_lines hl) 1

/-! ### The text of a rule set -/

theorem RuleSet.toList_dump (set : RuleSet) :
    set.dump.toList = unlines (set.dumpLines.map String.toList) := by
  rw [dump, String.toList_append, String.toList_intercalate]
  exact intercalate_newline (by simp [dumpLines])

theorem not_isLineBreak_ruleHeader : ∀ c ∈ "[Rule]".toList, isLineBreak c = false := by
  have hall : ("[Rule]".toList.all fun c ↦ !isLineBreak c) = true := by decide
  simpa using hall

theorem RuleSet.not_isLineBreak_of_mem_dumpLines {set : RuleSet}
    (hset : ∀ rule ∈ set.rules, rule.IsPlain) :
    ∀ l ∈ set.dumpLines.map String.toList, ∀ c ∈ l, isLineBreak c = false := by
  intro l hl
  simp only [dumpLines, List.map_append, List.map_cons, List.map_map, List.map_nil,
    List.cons_append, List.mem_cons, List.mem_append, List.mem_map, List.not_mem_nil,
    or_false] at hl
  rcases hl with rfl | ⟨rule, hrule, rfl⟩ | rfl
  · exact not_isLineBreak_ruleHeader
  · exact (isLineOf_line (hset rule hrule)).not_isLineBreak
  · exact (isLineOf_line_ofFinal set.default).not_isLineBreak

/-- What stands behind the text of a rule set is read on from that set. -/
theorem parseConfig_dump_append_eq_run {set : RuleSet} (hset : ∀ rule ∈ set.rules, rule.IsPlain)
    (text : String) :
    parseConfig (set.dump ++ text) =
      (Reading.run { current := .rule, set } 1 (lines text.toList)).set := by
  rw [parseConfig, readConfig, String.toList_append, RuleSet.toList_dump,
    lines_unlines_append (RuleSet.not_isLineBreak_of_mem_dumpLines hset), Reading.run_append,
    Reading.run_dumpLines hset]
  exact (Reading.Agrees.run ⟨rfl, rfl⟩ _ 1 _).set_eq

/-- What stands behind a header of the rule section is read on from what stands before it. -/
theorem parseConfig_append_eq_run (before after : String) :
    parseConfig (before ++ "\n[Rule]\n" ++ after) =
      (Reading.run { current := .rule, set := parseConfig before } 1 (lines after.toList)).set := by
  have hlines : lines (before ++ "\n[Rule]\n" ++ after).toList =
      lines (before.toList ++ ['\n']) ++ ("[Rule]".toList :: lines after.toList) := by
    have htext : (before ++ "\n[Rule]\n" ++ after).toList =
        before.toList ++ '\n' :: (unlines ["[Rule]".toList] ++ after.toList) := by
      simp [unlines]
    rw [htext, lines_append_newline,
      lines_unlines_append (List.forall_mem_singleton.2 not_isLineBreak_ruleHeader)]
    rfl
  -- The break in front of the header adds at most an empty line, which is skipped.
  have hbefore :
      Reading.run {} 1 (lines (before.toList ++ ['\n'])) = readConfig before := by
    rcases lines_newline_eq_or before.toList with h | h
    · rw [h, readConfig]
    · rw [h, Reading.run_append, readConfig]
      rfl
  have hagrees : Reading.Agrees { readConfig before with current := .rule }
      { current := .rule, set := parseConfig before } := ⟨rfl, rfl⟩
  rw [parseConfig, readConfig, hlines, Reading.run_append, hbefore, Reading.run,
    Reading.step_ruleHeader]
  exact (hagrees.run _ 1 _).set_eq

/-- **A file may be replaced by what it was read as**: with a header of the rule section behind it,
or the text of its rule set in its place, whatever follows is read in the same way. In particular
the text of a rule set is read as that set. -/
theorem parseConfig_dump_append (before after : String) :
    parseConfig (before ++ "\n[Rule]\n" ++ after) =
        parseConfig ((parseConfig before).dump ++ after) ∧
      parseConfig (parseConfig before).dump = parseConfig before := by
  have hplain := isPlain_parseConfig before
  refine ⟨?_, ?_⟩
  · rw [parseConfig_append_eq_run, parseConfig_dump_append_eq_run hplain]
  · have := parseConfig_dump_append_eq_run hplain ""
    rwa [String.append_empty] at this

end SocksRouter
