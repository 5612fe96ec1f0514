import Mathlib.Data.List.Induction
import SocksRouter.Log.Notice
import SocksRouter.Proofs.Rule.Containment

/-!
# Every line of a rule file is accounted for

Each line of a rule file does one thing to the rules, or nothing (`lineEffect`): behind a header
of the rule section it adds a rule, sets the action for everything else, or is reported, and any
other line does nothing. What a file is read as is all that its lines do, one after another
(`isAccount_run`): no line is passed over, counted twice or given another number.

So a line that says nothing, be it blank, a comment or malformed, may be written anywhere or left
out (`parseConfig_accounts_for_lines`).
-/

namespace SocksRouter

open Text

/-! ### What a line does -/

/-- The headers of the sections. -/
def headers : List (List Char) :=
  ["[General]".toList, "[Rule]".toList]

/-- Whether the last header among the lines is that of the rule section. -/
def EndsInRules (before : List (List Char)) : Prop :=
  ((before.map strip).filter headers.contains).getLast? = some "[Rule]".toList

instance (before : List (List Char)) : Decidable (EndsInRules before) :=
  inferInstanceAs (Decidable (_ = _))

/-- A line that is neither blank, nor a comment, nor a header. -/
def IsEntry (line : List Char) : Prop :=
  strip line ≠ [] ∧ (strip line).head? ≠ some '#' ∧ strip line ∉ headers

instance (line : List Char) : Decidable (IsEntry line) :=
  inferInstanceAs (Decidable (_ ∧ _ ∧ _))

/-- What a line can do. -/
inductive LineEffect
  /-- Nothing. -/
  | nothing
  /-- It adds a rule behind those before it. -/
  | adds (rule : Rule)
  /-- It sets the action for everything else. -/
  | sets (action : Action)
  /-- It is reported as no rule. -/
  | warns (number : Nat) (line : String)
  deriving DecidableEq, Repr

namespace LineEffect

/-- The rule that is added. -/
def rule? : LineEffect → Option Rule
  | adds rule => some rule
  | _ => none

/-- The action that is set. -/
def action? : LineEffect → Option Action
  | sets action => some action
  | _ => none

/-- What is reported. -/
def warning? : LineEffect → Option ParseNotice
  | warns number line => some (.invalid number line)
  | _ => none

end LineEffect

/-- What an entry of the rule section does. -/
def entryEffect (number : Nat) (line : String) : LineEffect :=
  match parseRule? line with
  | none => .warns number line
  | some rule => if rule.kind = .final then .sets rule.action else .adds rule

/-- What a line does behind other lines. -/
def lineEffect (before : List (List Char)) (line : List Char) : LineEffect :=
  if EndsInRules before ∧ IsEntry line then
    entryEffect (before.length + 1) (String.ofList (strip line))
  else .nothing

/-- What each of the lines does. -/
def lineEffects (ls : List (List Char)) : List LineEffect :=
  ls.mapIdx fun i line ↦ lineEffect (ls.take i) line

/-- A further line does something of its own and changes nothing about what the others do. -/
theorem lineEffects_concat (ls : List (List Char)) (line : List Char) :
    lineEffects (ls ++ [line]) = lineEffects ls ++ [lineEffect ls line] := by
  have hsame : ls.mapIdx (fun i l ↦ lineEffect ((ls ++ [line]).take i) l) = lineEffects ls := by
    refine List.mapIdx_eq_mapIdx_iff.2 fun i hi ↦ ?_
    rw [List.take_append_of_le_length hi.le]
  rw [lineEffects, List.mapIdx_concat, hsame, List.take_left]

/-- What was noticed with the weight of a warning. -/
def warnings (notices : List ParseNotice) : List ParseNotice :=
  notices.filter fun what ↦ (Notice.parse what).level = .warning

/-! ### All that the lines do -/

/-- A reading that is all that the lines before it did. -/
structure IsAccount (ls : List (List Char)) (reading : Reading) : Prop where
  /-- The section is that of the last header. -/
  current_iff : reading.current = .rule ↔ EndsInRules ls
  /-- The rules are those that were added. -/
  rules_eq : reading.set.rules = (lineEffects ls).filterMap LineEffect.rule?
  /-- The action is the last one that was set. -/
  default_eq :
    reading.set.default = ((lineEffects ls).filterMap LineEffect.action?).getLast?.getD .proxy
  /-- The warnings are those about lines. -/
  warnings_eq : warnings reading.notices = (lineEffects ls).filterMap LineEffect.warning?

theorem isAccount_nil : IsAccount [] {} :=
  ⟨by decide, rfl, rfl, rfl⟩

theorem endsInRules_concat_of_header {line : List Char} (h : strip line ∈ headers)
    (ls : List (List Char)) : EndsInRules (ls ++ [line]) ↔ strip line = "[Rule]".toList := by
  simp [EndsInRules, h]

theorem endsInRules_concat_of_not_header {line : List Char} (h : strip line ∉ headers)
    (ls : List (List Char)) : EndsInRules (ls ++ [line]) ↔ EndsInRules ls := by
  simp [EndsInRules, h]

theorem mem_headers_iff {line : List Char} :
    line ∈ headers ↔ line = "[General]".toList ∨ line = "[Rule]".toList := by
  rw [headers, List.mem_cons, List.mem_singleton]

/-- A line that is skipped is no header. -/
theorem not_mem_headers_of_skipped {line : List Char} (h : line = [] ∨ line.head? = some '#') :
    line ∉ headers := by
  rw [mem_headers_iff]
  rintro (rfl | rfl) <;> exact absurd h (by decide)

/-- What a line is, said by its characters. -/
theorem lineKind_cases (line : List Char) :
    lineKind line = .skipped ∧ (line = [] ∨ line.head? = some '#') ∨
      lineKind line = .header .general ∧ line = "[General]".toList ∨
      lineKind line = .header .rule ∧ line = "[Rule]".toList ∨
      lineKind line = .content ∧ line ≠ [] ∧ line.head? ≠ some '#' ∧ line ∉ headers := by
  by_cases hskip : line = [] ∨ line.head? = some '#'
  · refine .inl ⟨?_, hskip⟩
    rw [lineKind, if_pos (by rwa [List.isEmpty_iff])]
  rw [lineKind, if_neg (by rwa [List.isEmpty_iff])]
  by_cases hgeneral : line = "[General]".toList
  · exact .inr (.inl ⟨if_pos hgeneral, hgeneral⟩)
  rw [if_neg hgeneral]
  by_cases hrule : line = "[Rule]".toList
  · exact .inr (.inr (.inl ⟨if_pos hrule, hrule⟩))
  · refine .inr (.inr (.inr ⟨if_neg hrule, mt .inl hskip, mt .inr hskip, ?_⟩))
    rw [mem_headers_iff]
    exact not_or.2 ⟨hgeneral, hrule⟩

theorem warnings_append (notices notices' : List ParseNotice) :
    warnings (notices ++ notices') = warnings notices ++ warnings notices' :=
  List.filter_append ..

/-- Reading a line reports no warning; that is left to the file it stands in. -/
theorem warnings_parseLine (line : List Char) : warnings (parseLine line).2 = [] := by
  rw [parseLine]
  split
  · split <;> rfl
  · split
    · split <;> rfl
    · rfl
  · rfl

variable {ls : List (List Char)} {line : List Char} {reading : Reading}

/-- An account goes on with what the next line does. -/
theorem IsAccount.concat (h : IsAccount ls reading) {effect : LineEffect}
    (heffect : lineEffect ls line = effect) {reading' : Reading}
    (hcurrent : reading'.current = .rule ↔ EndsInRules (ls ++ [line]))
    (hrules : reading'.set.rules = reading.set.rules ++ effect.rule?.toList)
    (hdefault : reading'.set.default = effect.action?.getD reading.set.default)
    (hwarnings : warnings reading'.notices = warnings reading.notices ++ effect.warning?.toList) :
    IsAccount (ls ++ [line]) reading' := by
  have hone : ∀ {α : Type} (f : LineEffect → Option α),
      (lineEffects (ls ++ [line])).filterMap f =
        (lineEffects ls).filterMap f ++ (f effect).toList := by
    intro α f
    rw [lineEffects_concat, heffect, List.filterMap_append]
    cases hf : f effect <;> simp [hf]
  refine ⟨hcurrent, ?_, ?_, ?_⟩
  · rw [hrules, hone, h.rules_eq]
  · rw [hdefault, hone, h.default_eq]
    cases effect.action? <;> simp
  · rw [hwarnings, hone, h.warnings_eq]

theorem lineEffect_of_not_isEntry (h : ¬IsEntry line) (ls : List (List Char)) :
    lineEffect ls line = .nothing :=
  if_neg fun hentry ↦ h hentry.2

/-- An entry of the rule section has one of the three effects. -/
theorem IsAccount.content (h : IsAccount ls reading) (hends : EndsInRules ls)
    (hentry : IsEntry line) :
    IsAccount (ls ++ [line]) (reading.content (ls.length + 1) (strip line)) := by
  have hnotices := warnings_parseLine (strip line)
  have hcurrent : reading.current = .rule ↔ EndsInRules (ls ++ [line]) :=
    h.current_iff.trans (endsInRules_concat_of_not_header hentry.2.2 ls).symm
  have heffect : lineEffect ls line =
      entryEffect (ls.length + 1) (String.ofList (strip line)) := if_pos ⟨hends, hentry⟩
  rw [entryEffect, parseRule?, String.toList_ofList] at heffect
  rw [Reading.content]
  rcases hparse : parseLine (strip line) with ⟨- | rule, notices⟩
  · rw [hparse] at heffect hnotices
    refine h.concat heffect hcurrent (List.append_nil _).symm rfl ?_
    rw [warnings_append, warnings_append, hnotices, List.append_nil]
    rfl
  rw [hparse] at heffect hnotices
  have hwarnings : warnings (reading.notices ++ notices) = warnings reading.notices ++ [] := by
    rw [warnings_append, hnotices]
  by_cases hfinal : rule.kind = .final
  · refine h.concat (heffect.trans (if_pos hfinal)) hcurrent ?_ ?_ hwarnings
    · simp [hfinal, LineEffect.rule?]
    · simp [hfinal, LineEffect.action?]
  · refine h.concat (heffect.trans (if_neg hfinal)) hcurrent ?_ ?_ hwarnings
    · simp [hfinal, LineEffect.rule?]
    · simp [hfinal, LineEffect.action?]

/-- **A step accounts for its line.** -/
theorem IsAccount.step (h : IsAccount ls reading) (line : List Char) :
    IsAccount (ls ++ [line]) (reading.step (ls.length + 1) line) := by
  have hidle : lineEffect ls line = .nothing → ∀ {current : ConfigSection},
      (current = .rule ↔ EndsInRules (ls ++ [line])) →
        IsAccount (ls ++ [line]) { reading with current } := fun heffect current hcurrent ↦
    h.concat heffect hcurrent (List.append_nil _).symm rfl (List.append_nil _).symm
  have hheader : ∀ name : ConfigSection, lineKind (strip line) = .header name →
      strip line ∈ headers → (name = .rule ↔ strip line = "[Rule]".toList) →
        IsAccount (ls ++ [line]) (reading.step (ls.length + 1) line) := by
    intro name hkind hmem hname
    rw [Reading.step, hkind]
    exact hidle (lineEffect_of_not_isEntry (fun hentry ↦ hentry.2.2 hmem) ls)
      (hname.trans (endsInRules_concat_of_header hmem ls).symm)
  obtain ⟨hkind, hskip⟩ | ⟨hkind, hline⟩ | ⟨hkind, hline⟩ | ⟨hkind, hentry⟩ :=
    lineKind_cases (strip line)
  · rw [Reading.step, hkind]
    refine hidle (lineEffect_of_not_isEntry (fun hentry ↦ ?_) ls)
      (h.current_iff.trans
        (endsInRules_concat_of_not_header (not_mem_headers_of_skipped hskip) ls).symm)
    exact hskip.elim hentry.1 hentry.2.1
  · exact hheader .general hkind (mem_headers_iff.2 (.inl hline)) (by rw [hline]; decide)
  · exact hheader .rule hkind (mem_headers_iff.2 (.inr hline)) (by simp [hline])
  · rw [Reading.step, hkind]
    by_cases hcurrent : reading.current = .rule
    · simp only [if_pos hcurrent]
      exact h.content (h.current_iff.1 hcurrent) hentry
    · simp only [if_neg hcurrent]
      exact hidle (if_neg fun hends ↦ hcurrent (h.current_iff.2 hends.1))
        (h.current_iff.trans (endsInRules_concat_of_not_header hentry.2.2 ls).symm)

/-- **What a file is read as is all that its lines do.** -/
theorem isAccount_run (ls : List (List Char)) : IsAccount ls (({} : Reading).run 1 ls) := by
  induction ls using List.reverseRecOn with
  | nil => exact isAccount_nil
  | append_singleton ls line ih =>
    rw [Reading.run_append, Nat.add_comm 1]
    exact ih.step line

/-- Just the entries of the rule section do something, each one of the three things. -/
theorem lineEffect_eq_nothing_iff {before : List (List Char)} :
    lineEffect before line = .nothing ↔ ¬(EndsInRules before ∧ IsEntry line) := by
  rw [lineEffect]
  split
  · rename_i hentry
    refine iff_of_false (fun h ↦ ?_) (not_not.2 hentry)
    rw [entryEffect] at h
    split at h
    · contradiction
    · split at h <;> contradiction
  · rename_i hentry
    exact iff_of_true rfl hentry

/-! ### Lines that say nothing -/

/-- A line that is blank, a comment or malformed. -/
def IsIdle (line : List Char) : Prop :=
  strip line = [] ∨ (strip line).head? = some '#' ∨
    strip line ∉ headers ∧ parseRule? (String.ofList (strip line)) = none

instance (line : List Char) : Decidable (IsIdle line) :=
  inferInstanceAs (Decidable (_ ∨ _ ∨ _ ∧ _))

theorem IsIdle.agrees_step (h : IsIdle line) (reading : Reading) (n : Nat) :
    (reading.step n line).Agrees reading := by
  obtain ⟨hkind, -⟩ | ⟨-, hline⟩ | ⟨-, hline⟩ | ⟨hkind, hne, hcomment, -⟩ :=
    lineKind_cases (strip line)
  · rw [Reading.step, hkind]
    exact ⟨rfl, rfl⟩
  all_goals
    obtain h | h | ⟨hheader, hrule⟩ := h
  · simp [hline] at h
  · simp [hline] at h
  · exact absurd (mem_headers_iff.2 (.inl hline)) hheader
  · simp [hline] at h
  · simp [hline] at h
  · exact absurd (mem_headers_iff.2 (.inr hline)) hheader
  · exact absurd h hne
  · exact absurd h hcomment
  · rw [parseRule?, String.toList_ofList] at hrule
    refine Reading.agrees_step_of_not_rule (fun name ↦ ?_) hrule reading n
    simp [hkind]

/-- Lines that lead to the same rules as others, whatever was read before and however they are
numbered. -/
def SameRules (ls ls' : List (List Char)) : Prop :=
  ∀ (reading : Reading) (n m : Nat), (reading.run n ls).Agrees (reading.run m ls')

namespace SameRules

variable {ls ls' ls'' : List (List Char)}

theorem refl (ls : List (List Char)) : SameRules ls ls :=
  fun _ n m ↦ Reading.Agrees.run ⟨rfl, rfl⟩ n m ls

theorem symm (h : SameRules ls ls') : SameRules ls' ls :=
  fun reading n m ↦ ⟨(h reading m n).current_eq.symm, (h reading m n).set_eq.symm⟩

theorem trans (h : SameRules ls ls') (h' : SameRules ls' ls'') : SameRules ls ls'' :=
  fun reading n m ↦ (h reading n n).trans (h' reading n m)

theorem append (before : List (List Char)) (h : SameRules ls ls') :
    SameRules (before ++ ls) (before ++ ls') := by
  intro reading n m
  rw [Reading.run_append, Reading.run_append]
  exact ((refl before reading n m).run _ (m + before.length) ls).trans (h _ _ _)

/-- A line that says nothing may be left out. -/
theorem cons_of_isIdle (h : IsIdle line) (ls : List (List Char)) : SameRules (line :: ls) ls :=
  fun reading n m ↦ (h.agrees_step reading n).run (n + 1) m ls

theorem parseConfig_eq {text other : String}
    (h : SameRules (lines text.toList) (lines other.toList)) :
    parseConfig text = parseConfig other :=
  (h {} 1 1).set_eq

/-- A text may be read in two parts, cut behind any break. -/
theorem lines_append {s : List Char} (hs : ∀ c ∈ s.getLast?, isLineBreak c = true)
    (t : List Char) : SameRules (lines (s ++ t)) (lines s ++ lines t) := by
  obtain ⟨ls, heq, ht⟩ := lines_append_of_getLast? hs t
  rw [heq]
  refine append _ ?_
  obtain rfl | ht := ht
  · exact refl _
  · rw [ht]
    exact (cons_of_isIdle (.inl rfl) ls).symm

/-- A written line that says nothing may be left out of a text. -/
theorem lines_of_isIdle {before line b after : List Char} (h : IsIdle line)
    (hbefore : ∀ c ∈ before.getLast?, isLineBreak c = true)
    (hline : ∀ c ∈ line, isLineBreak c = false) (hb : IsBreak b) :
    SameRules (lines (before ++ ((line ++ b) ++ after))) (lines (before ++ after)) := by
  have hlast : ∀ c ∈ (line ++ b).getLast?, isLineBreak c = true := by
    intro c hc
    obtain rfl | ⟨d, hd, rfl⟩ := hb
    · obtain rfl : '\n' = c := by simpa using hc
      decide
    · obtain rfl : d = c := by simpa using hc
      exact hd
  have hrest : SameRules (lines ((line ++ b) ++ after)) (line :: lines after) := by
    simpa [lines_append_break hline hb] using lines_append hlast after
  have hwith : SameRules (lines (before ++ ((line ++ b) ++ after)))
      (lines before ++ line :: lines after) :=
    (lines_append hbefore _).trans (append _ hrest)
  have hwithout : SameRules (lines (before ++ after)) (lines before ++ lines after) :=
    lines_append hbefore after
  exact (hwith.trans (append _ (cons_of_isIdle h _))).trans hwithout.symm

end SameRules

/-! ### A rule file and its lines -/

/-- **Every line of a rule file is accounted for.** Just the entries of the rule sections do
something, each of them one thing: it adds a rule, sets the action for everything else, or is
reported with its number and its text. The rules of the file are those that were added, in order,
and none is final; its action is the last one that was set; and the warnings are those about lines.
So they make a rule set, and a line that says nothing changes nothing in it: neither among the lines
nor written into the text, with any break. -/
theorem parseConfig_accounts_for_lines (text : String) :
    let set := parseConfig text
    let effects := lineEffects (lines text.toList)
    (∀ before line, lineEffect before line = .nothing ↔ ¬(EndsInRules before ∧ IsEntry line)) ∧
      set.rules = effects.filterMap LineEffect.rule? ∧
      set.default = ((effects.filterMap LineEffect.action?).getLast?.getD .proxy) ∧
      warnings (readConfig text).notices = effects.filterMap LineEffect.warning? ∧
      (∀ rule ∈ set.rules, rule.kind ≠ .final) ∧
      RuleSet.make set.rules set.default = .ok set ∧
      (∀ (other : String) (before after : List (List Char)) (line : List Char), IsIdle line →
        lines text.toList = before ++ line :: after → lines other.toList = before ++ after →
          parseConfig other = set) ∧
      ∀ before line b after : String, IsIdle line.toList →
        (∀ c ∈ before.toList.getLast?, isLineBreak c = true) →
        (∀ c ∈ line.toList, isLineBreak c = false) → IsBreak b.toList →
        text = before ++ (line ++ b) ++ after → parseConfig (before ++ after) = set := by
  have haccount := isAccount_run (lines text.toList)
  have hkind : ∀ rule ∈ (parseConfig text).rules, rule.kind ≠ .final :=
    fun rule hrule ↦ (isPlain_parseConfig text rule hrule).1
  refine ⟨fun before line ↦ lineEffect_eq_nothing_iff, haccount.rules_eq, haccount.default_eq,
    haccount.warnings_eq, hkind, ?_, ?_, ?_⟩
  · rw [RuleSet.make, if_neg (by simpa using hkind)]
  · intro other before after line hidle htext hother
    refine SameRules.parseConfig_eq ?_
    rw [hother, htext]
    exact (SameRules.append before (SameRules.cons_of_isIdle hidle after)).symm
  · intro before line b after hidle hbefore hline hb htext
    refine SameRules.parseConfig_eq ?_
    have hsame : SameRules (lines (before.toList ++ ((line.toList ++ b.toList) ++ after.toList)))
        (lines (before.toList ++ after.toList)) :=
      SameRules.lines_of_isIdle hidle hbefore hline hb
    rw [htext, String.toList_append, String.toList_append, String.toList_append,
      String.toList_append, List.append_assoc]
    exact hsame.symm

/-- A file with two sections, several breaks and two final rules: the malformed line is reported
under its own number, and it may be left out with its break, or in a file with other breaks. -/
theorem parseConfig_accounts_for_malformed :
    let before := "DOMAIN,a,DIRECT\r\n[Rule]\u2028FINAL,DIRECT\x0c # x \n\r"
    let after := "DOMAIN, A ,Proxy\n[General]\nGEOIP,us,REJECT\n[Rule]\nFINAL,REJECT"
    let text := before ++ ("\tBOGUS,x,y" ++ "\x85") ++ after
    let other := "DOMAIN,a,DIRECT\n[Rule]\nFINAL,DIRECT\n # x \n\n" ++ after
    parseConfig text = ⟨[⟨.domain, some "a", .proxy⟩], .reject⟩ ∧
      warnings (readConfig text).notices = [.invalid 6 "BOGUS,x,y"] ∧
      parseConfig (before ++ after) = parseConfig text ∧ parseConfig other = parseConfig text := by
  intro before after text other
  obtain ⟨-, -, -, -, -, -, hlines, hwritten⟩ := parseConfig_accounts_for_lines text
  have hlast : before.toList.getLast? = some '\r' := by decide +kernel
  refine ⟨by decide +kernel, by decide +kernel, ?_, ?_⟩
  · exact hwritten before "\tBOGUS,x,y" "\x85" after (by decide +kernel) (by simp [hlast]; decide)
      (by simp; decide) (.inr ⟨'\x85', by decide, rfl⟩) rfl
  · exact hlines other ((lines text.toList).take 5) ((lines text.toList).drop 6)
      "\tBOGUS,x,y".toList (by decide +kernel) (by decide +kernel) (by decide +kernel)

end SocksRouter
