import SocksRouter.Cli.Commands
import SocksRouter.Proofs.Console.Plain
import SocksRouter.Proofs.Engine.Reload
import SocksRouter.Proofs.Rule.Addition

/-!
# The listing of a rule file, read again

`rules --raw` prints the text of a rule set, which would be read as that rule set if it were written
to a file. But it goes through the console, so a line may be shown otherwise than it is
(`IsShownWhole`): names in it become pictures, tabs become spaces, some characters are dropped, and
what is wider than the console is folded. `parseConfig_listing_eq_iff` says what comes of it: the
listing is read as the rules of the file just when every rule of the file is shown whole.

If all lines are shown whole, the listing is the text of the rule set behind the banner, which says
nothing. For the converse no rule can make up for another.

* What is shown of a line has no more commas than the line (`count_listed_le`), so at most one rule
  is read from it. If as many rules are read as there were, each comes from its own line.
* A line from which its own rule is read was shown whole (`ReadsBack.isShownWhole`): a picture
  costs a colon, what is dropped or filled up is missed in the pattern, and of a line that is folded
  no piece is long enough.
-/

namespace SocksRouter

open Console Text

/-! ### The lines of rules -/

/-- A character that may stand in a word for a kind or an action. -/
def IsTokenChar (c : Char) : Prop :=
  0x41 ≤ c.toNat ∧ c.toNat ≤ 0x7A ∨ c = '-'

instance (c : Char) : Decidable (IsTokenChar c) :=
  inferInstanceAs (Decidable (_ ∨ _))

/-- The characters before U+000E stand in no word, and next to none. -/
theorem outside_of_lt {c : Char} (h : c.toNat < 14) : ¬IsTokenChar c ∧ c ≠ ',' ∧ c ≠ ' ' := by
  refine ⟨?_, ?_, ?_⟩
  · rintro (hletter | rfl)
    · omega
    · exact absurd h (by decide)
  all_goals
    rintro rfl
    exact absurd h (by decide)

/-- Only they are dropped or filled up. -/
theorem not_dropped_of_le {c : Char} (h : 14 ≤ c.toNat) :
    Marked.isDropped c = false ∧ c ≠ '\t' := by
  refine ⟨?_, ?_⟩
  · simp only [Marked.isDropped, List.mem_cons, List.not_mem_nil, or_false, decide_eq_false_iff_not]
    omega
  · rintro rfl
    exact absurd h (by decide)

theorem RuleKind.isTokenChar_of_mem_token (kind : RuleKind) :
    ∀ c ∈ kind.token.toList, IsTokenChar c := by
  have hall : kind.token.toList.all (fun c ↦ IsTokenChar c) = true := by cases kind <;> decide
  simpa using hall

theorem Action.isTokenChar_of_mem_token (action : Action) :
    ∀ c ∈ action.token.toList, IsTokenChar c := by
  have hall : action.token.toList.all (fun c ↦ IsTokenChar c) = true := by cases action <;> decide
  simpa using hall

namespace Rule

variable {rule : Rule} {p : List Char}

/-- A line starts with a character of a word, which is drawn on its own. -/
theorem exists_line_eq_cons (rule : Rule) :
    ∃ c rest, rule.line.toList = c :: rest ∧ isBlank c = false ∧ c ≠ joiner ∧ c ≠ pictureMark := by
  have hword := rule.kind.isPlainWord_token
  have hline : ∃ behind, rule.line.toList = rule.kind.token.toList ++ behind := by
    rw [line]
    split <;> exact ⟨_, by simp; rfl⟩
  obtain ⟨behind, hline⟩ := hline
  obtain ⟨c, rest, heq⟩ := List.exists_cons_of_ne_nil hword.ne_nil
  have hc : c ∈ rule.kind.token.toList := heq ▸ List.mem_cons_self
  refine ⟨c, rest ++ behind, by rw [hline, heq, List.cons_append], (hword.of_mem hc).1, ?_, ?_⟩
  all_goals
    rintro rfl
    exact absurd (rule.kind.isTokenChar_of_mem_token _ hc) (by decide)

/-- What is in no word is in the line as often as in the pattern, but for the two commas. -/
theorem count_line (h : rule.pattern = some (String.ofList p)) {c : Char} (hc : ¬IsTokenChar c) :
    rule.line.toList.count c = p.count c + [',', ','].count c := by
  have hkind : rule.kind.token.toList.count c = 0 :=
    List.count_eq_zero.2 (mt (rule.kind.isTokenChar_of_mem_token c) hc)
  have haction : rule.action.token.toList.count c = 0 :=
    List.count_eq_zero.2 (mt (rule.action.isTokenChar_of_mem_token c) hc)
  rw [toList_line h]
  simp only [List.count_append, List.count_cons, List.count_nil, hkind, haction]
  omega

end Rule

/-! ### Lines that are read back -/

/-- A line that is shown for the line of a rule, and from which this rule is read. -/
structure ReadsBack (rule : Rule) (shown : List Char) : Prop where
  /-- The line of the rule is read as the rule. -/
  isPlain : rule.IsPlain
  /-- This is one of the lines that it is shown as. -/
  mem_listed : shown ∈ listed rule.line.toList
  /-- It is read as the rule as well. -/
  added : addedRule? shown = some rule

namespace ReadsBack

variable {rule : Rule} {shown : List Char}

/-- All that the line has before the small letters is shown, but for words and commas. -/
theorem count_le (h : ReadsBack rule shown) {c : Char} (hc : ¬IsTokenChar c) (hcomma : c ≠ ',')
    (hsmall : c.toNat < 0x61) : rule.line.toList.count c ≤ shown.count c := by
  obtain ⟨-, p, hp, -⟩ := h.isPlain
  have hcommas : [',', ','].count c = 0 := List.count_eq_zero.2 (by simpa using hcomma)
  rw [Rule.count_line hp hc, hcommas]
  exact count_pattern_le h.added hp hsmall

/-- No picture took a colon away. -/
theorem withPictures_eq (h : ReadsBack rule shown) :
    withPictures rule.line.toList = rule.line.toList := by
  refine (withPictures_eq_self_or _).resolve_right (Nat.not_lt.2 ?_)
  calc rule.line.toList.count ':'
      ≤ shown.count ':' := h.count_le (by decide) (by decide) (by decide)
    _ ≤ (listed rule.line.toList).flatten.count ':' :=
      (List.sublist_flatten_of_mem h.mem_listed).count_le ':'
    _ ≤ (taken rule.line.toList).count ':' := count_shownLines_le (by decide) _
    _ ≤ (withPictures rule.line.toList).count ':' := List.filter_sublist.count_le ':'

/-- Nothing is missed that the console would not show. -/
theorem not_dropped (h : ReadsBack rule shown) :
    ∀ c ∈ rule.line.toList, Marked.isDropped c = false ∧ c ≠ '\t' := by
  intro c hc
  rcases Nat.lt_or_ge c.toNat 14 with hlow | hhigh
  · obtain ⟨hword, hcomma, hspace⟩ := outside_of_lt hlow
    have hpos := (List.count_pos_iff.2 hc).trans_le (h.count_le hword hcomma (by omega))
    have hshown : c ∈ shown := List.count_pos_iff.1 hpos
    have htaken := (List.mem_filter.1 (mem_of_mem_listed hspace h.mem_listed hshown)).2
    exact ⟨by simpa using htaken, fun htab ↦ tab_not_mem_shownLines h.mem_listed (htab ▸ hshown)⟩
  · exact not_dropped_of_le hhigh

theorem taken_eq (h : ReadsBack rule shown) : taken rule.line.toList = rule.line.toList :=
  taken_eq_self h.withPictures_eq fun c hc ↦ (h.not_dropped c hc).1

/-- The one capital that becomes two characters is not shown, as it is in no pattern. -/
theorem dotted_not_mem (h : ReadsBack rule shown) : '\u0130' ∉ shown := by
  obtain ⟨-, p, hp, hplain⟩ := h.isPlain
  intro hmem
  have hline : '\u0130' ∈ rule.line.toList :=
    h.taken_eq ▸ mem_of_mem_listed (by decide) h.mem_listed hmem
  have hcount : 0 < p.count '\u0130' := by
    have hcommas : [',', ','].count '\u0130' = 0 := by decide
    rw [← Nat.add_zero (p.count _), ← hcommas, ← Rule.count_line hp (by decide)]
    exact List.count_pos_iff.2 hline
  have hlower : '\u0130' ∈ lower p := hplain.lower_eq_self.symm ▸ List.count_pos_iff.1 hcount
  exact (isLow_of_mem_lowerAfter _ hlower).2.2 rfl

/-- The line was not folded, since no piece of it would be long enough. -/
theorem cells_le (h : ReadsBack rule shown) : cells rule.line.toList ≤ consoleWidth := by
  by_contra hwide
  have hlong := length_line_le h.added h.dotted_not_mem
  have hstrip := (isLineOf_line h.isPlain).strip_eq_self
  have htab : '\t' ∉ rule.line.toList := fun hmem ↦ (h.not_dropped _ hmem).2 rfl
  have hshown := h.mem_listed
  rw [listed, h.taken_eq] at hshown
  obtain ⟨c, rest, heq, hc, hjoiner, hmark⟩ := rule.exists_line_eq_cons
  rw [heq] at hshown hstrip hwide hlong htab
  -- The spaces behind the piece are trimmed off before it is read.
  obtain ⟨kept, n, rfl, -, hshort⟩ :=
    isShort_of_mem_shownLines hc hjoiner hmark hstrip htab (Nat.not_le.1 hwide) hshown
  have hblanks : ∀ c ∈ blanks n, isBlank c = true := by
    intro c hc
    rw [List.eq_of_mem_replicate hc]
    decide
  rw [strip_append_of_blank kept hblanks] at hlong
  exact absurd (hlong.trans (strip_isInfix kept).length_le) (Nat.not_le.2 hshort)

/-- **A line from which its own rule is read was shown whole.** -/
theorem isShownWhole (h : ReadsBack rule shown) : IsShownWhole rule.line.toList :=
  ⟨h.withPictures_eq, h.not_dropped, h.cells_le⟩

end ReadsBack

/-! ### Which rules are read -/

/-- Lines with fewer commas than two rules have add one rule at most. -/
theorem filterMap_listed_eq_toList {line : List Char} (h : line.count ',' < 4) :
    (listed line).filterMap addedRule? = ((listed line).findSome? addedRule?).toList := by
  have hcommas := (two_mul_length_filterMap_le (listed line)).trans
    (count_listed_le (fun h ↦ h.ne_comma rfl) (by decide) line)
  rw [← List.head?_filterMap]
  rcases hadded : (listed line).filterMap addedRule? with - | ⟨rule, - | ⟨other, more⟩⟩
  · rfl
  · rfl
  · rw [hadded, List.length_cons, List.length_cons] at hcommas
    omega

/-- Lines with fewer commas than a rule has add none. -/
theorem filterMap_listed_eq_nil {line : List Char} (h : line.count ',' < 2) :
    (listed line).filterMap addedRule? = [] := by
  have hcommas := (two_mul_length_filterMap_le (listed line)).trans
    (count_listed_le (fun h ↦ h.ne_comma rfl) (by decide) line)
  refine List.length_eq_zero_iff.1 ?_
  omega

theorem listed_line {rule : Rule} (hstrip : strip rule.line.toList = rule.line.toList)
    (h : IsShownWhole rule.line.toList) : listed rule.line.toList = [rule.line.toList] := by
  obtain ⟨c, rest, heq, hc, -⟩ := rule.exists_line_eq_cons
  rw [heq] at hstrip h ⊢
  exact listed_eq_singleton hc hstrip h

theorem isShownWhole_ofFinal (action : Action) :
    IsShownWhole (Rule.ofFinal action).line.toList := by
  cases action <;> decide +kernel

theorem RuleSet.toList_dumpLines (set : RuleSet) :
    set.dumpLines.map String.toList =
      "[Rule]".toList :: ((set.rules.map fun rule ↦ rule.line.toList) ++
        [set.finalRule.line.toList]) := by
  simp [dumpLines]

/-- The rules that the listing of a rule set may add: one at most for each rule of the set. -/
theorem filterMap_listed_dumpLines {set : RuleSet} (hset : ∀ rule ∈ set.rules, rule.IsPlain) :
    ((set.dumpLines.map String.toList).flatMap listed).filterMap addedRule? =
      set.rules.filterMap fun rule ↦ (listed rule.line.toList).findSome? addedRule? := by
  have hheader : (listed "[Rule]".toList).filterMap addedRule? = [] :=
    filterMap_listed_eq_nil (by decide)
  have hfinal : (listed set.finalRule.line.toList).filterMap addedRule? = [] := by
    refine filterMap_listed_eq_nil ?_
    rw [RuleSet.finalRule]
    cases set.default <;> decide
  have hrule : ∀ rule ∈ set.rules, (listed rule.line.toList).filterMap addedRule? =
      ((listed rule.line.toList).findSome? addedRule?).toList := by
    intro rule hrule
    obtain ⟨-, p, hp, hplain⟩ := hset rule hrule
    refine filterMap_listed_eq_toList ?_
    rw [Rule.count_line hp (by decide), List.count_eq_zero.2 hplain.comma_not_mem]
    decide
  rw [RuleSet.toList_dumpLines, List.flatMap_cons, List.flatMap_append, List.flatMap_singleton,
    List.filterMap_append, List.filterMap_append, hheader, hfinal, List.nil_append, List.append_nil,
    List.flatMap_map, List.filterMap_flatMap, List.filterMap_eq_flatMap_toList]
  exact List.flatMap_congr hrule

/-! ### The listing -/

/-- The banner without the break behind it. -/
def bannerLine : List Char :=
  Cli.banner.dropLast

theorem banner_eq : Cli.banner = unlines [bannerLine] := by
  decide

/-- What is printed as the listing of a rule set. -/
def listing (set : RuleSet) : List Char :=
  Cli.banner ++ printed (ofPlain set.dump.toList)

section

variable {set : RuleSet}

/-- **The listing is read from what is shown of the lines of the rule set**; the banner stands
outside of any section. -/
theorem parseConfig_listing (hset : ∀ rule ∈ set.rules, rule.IsPlain) :
    parseConfig (String.ofList (listing set)) =
      (({} : Reading).run 2 ((set.dumpLines.map String.toList).flatMap listed)).set := by
  have hbreaks := RuleSet.not_isLineBreak_of_mem_dumpLines hset
  have hlisted : ∀ l ∈ (set.dumpLines.map String.toList).flatMap listed,
      ∀ c ∈ l, isLineBreak c = false := by
    intro l hl
    obtain ⟨line, hline, hl⟩ := List.mem_flatMap.1 hl
    exact not_isLineBreak_of_mem_listed (hbreaks line hline) l hl
  have hbanner : ∀ l ∈ [bannerLine], ∀ c ∈ l, isLineBreak c = false := by
    have hall : bannerLine.all (fun c ↦ !isLineBreak c) = true := by decide
    simpa using hall
  have hstep : ({} : Reading).step 1 bannerLine = {} := by decide
  have hlines := lines_unlines_append hlisted []
  rw [List.append_nil, show lines [] = [] from rfl, List.append_nil] at hlines
  rw [parseConfig, readConfig, String.toList_ofList, listing, banner_eq, RuleSet.toList_dump,
    printed_ofPlain_unlines hbreaks, lines_unlines_append hbanner, hlines, List.singleton_append,
    Reading.run, hstep]

/-- **The listing of a rule set is read as that rule set just when all its rules are shown
whole.** -/
theorem parseConfig_listing_eq_self_iff (hset : ∀ rule ∈ set.rules, rule.IsPlain) :
    parseConfig (String.ofList (listing set)) = set ↔
      ∀ rule ∈ set.rules, IsShownWhole rule.line.toList := by
  rw [parseConfig_listing hset]
  constructor
  · intro h
    obtain ⟨added, hadded, hsub⟩ :=
      Reading.exists_added {} 2 ((set.dumpLines.map String.toList).flatMap listed)
    have hrules : added = set.rules := by
      rw [h] at hadded
      exact hadded.symm
    rw [hrules, filterMap_listed_dumpLines hset] at hsub
    -- No line adds two rules, so none of the rules can come from the line of another.
    have hall := hsub.eq_of_length_le (List.length_filterMap_le _ _)
    intro rule hrule
    have hown := filterMap_eq_self_iff.1 hall.symm rule hrule
    obtain ⟨shown, hshown, hadded⟩ := List.exists_of_findSome?_eq_some hown
    exact ReadsBack.isShownWhole ⟨hset rule hrule, hshown, hadded⟩
  · intro h
    have hlisted : ∀ line ∈ set.dumpLines.map String.toList, listed line = [line] := by
      intro line hline
      rw [RuleSet.toList_dumpLines] at hline
      simp only [List.mem_cons, List.mem_append, List.mem_map, List.not_mem_nil, or_false] at hline
      rcases hline with rfl | ⟨rule, hrule, rfl⟩ | rfl
      · exact listed_eq_singleton (by decide) (by decide) (by decide +kernel)
      · exact listed_line (isLineOf_line (hset rule hrule)).strip_eq_self (h rule hrule)
      · exact listed_line (isLineOf_line_ofFinal set.default).strip_eq_self
          (isShownWhole_ofFinal set.default)
    rw [List.flatMap_congr hlisted, List.flatMap_singleton', Reading.run_dumpLines hset]

end

/-! ### The command -/

namespace Cli

/-- The arguments ask for the listing of a rule file that can be read, and this is its text. -/
structure AsksForListing (around : Surrounding) (words rest : List String)
    (arguments : Arguments) (path text : String) : Prop where
  /-- The command is `rules`. -/
  command_eq : splitCommand words = .ok (some ("rules", rest))
  /-- Its arguments are well-formed. -/
  arguments_eq : readArguments rulesForms rest = .ok arguments
  /-- They do not ask for help. -/
  help_eq : arguments.isOn .help = false
  /-- They ask for the lines of the rules. -/
  raw_eq : arguments.isOn .raw = true
  /-- There is nothing besides options. -/
  operands_eq : arguments.operands = []
  /-- The rule file is given. -/
  path_eq : around.configPath arguments = .ok path
  /-- It can be read. -/
  text_eq : (around.read path).readText path = .ok text

theorem AsksForListing.run_eq {around : Surrounding} {words rest : List String}
    {arguments : Arguments} {path text : String}
    (h : AsksForListing around words rest arguments path text) :
    run around words = .done (listing (parseConfig text)) := by
  have hrules : runRules around arguments = .ok (.done (listing (parseConfig text))) := by
    simp only [runRules, h.operands_eq, h.path_eq, h.text_eq, h.raw_eq, bind, Except.bind, pure,
      Except.pure, if_true, listing]
  have hcommand : runCommand rulesForms (runRules around) rest =
      .ok (.done (listing (parseConfig text))) := by
    simp only [runCommand, h.arguments_eq, h.help_eq, bind, Except.bind, Bool.false_eq_true,
      if_false, hrules]
  simp only [run, h.command_eq, bind, Except.bind, hcommand]

/-- **The listing of a rule file is read as the rules of the file just when every rule is shown
whole**: its line holds no name of a picture, no tab and nothing that the console drops, and is no
wider than the console. -/
theorem parseConfig_listing_eq_iff {around : Surrounding} {words rest : List String}
    {arguments : Arguments} {path text : String}
    (h : AsksForListing around words rest arguments path text) :
    ∃ output, run around words = .done output ∧
      (parseConfig (String.ofList output) = parseConfig text ↔
        ∀ rule ∈ (parseConfig text).rules, IsShownWhole rule.line.toList) := by
  refine ⟨listing (parseConfig text), h.run_eq, ?_⟩
  exact parseConfig_listing_eq_self_iff (isPlain_parseConfig text)

/-- What a run finds when every path leads to a file of this text. -/
def Surrounding.ofText (text : String) : Surrounding :=
  { read := fun _ ↦ .ofText text, names := .unknown }

/-- The command line that asks for the listing of a file. -/
def listingWords : List String :=
  ["rules", "--config", "rules.conf", "--raw"]

theorem asksForListing_ofText (text : String) :
    AsksForListing (.ofText text) listingWords ["--config", "rules.conf", "--raw"]
      ⟨[(.config, "rules.conf")], [(.raw, true)], []⟩ "rules.conf"
      (String.ofList (unifyBreaks text.toList)) where
  command_eq := by decide
  arguments_eq := by decide +kernel
  help_eq := by decide
  raw_eq := by decide
  operands_eq := rfl
  path_eq := by rfl
  text_eq := FileContent.readText_ofText (by decide) text

/-- A file whose only rule is short is listed as it is. -/
theorem parseConfig_listing_of_short :
    let text := "[Rule]\nDOMAIN,example.com,REJECT\nFINAL,DIRECT\n"
    ∃ output, run (.ofText text) listingWords = .done output ∧
      parseConfig (String.ofList output) = parseConfig text := by
  intro text
  have h := asksForListing_ofText text
  have htext : String.ofList (unifyBreaks text.toList) = text := by decide +kernel
  rw [htext] at h
  obtain ⟨output, hrun, hiff⟩ := parseConfig_listing_eq_iff h
  have hrules : (parseConfig text).rules = [⟨.domain, some "example.com", .reject⟩] := by
    decide +kernel
  refine ⟨output, hrun, hiff.2 ?_⟩
  rw [hrules, List.forall_mem_singleton]
  decide +kernel

/-- A file with a rule for a name of 70 characters: no rule is read from its listing. -/
theorem parseConfig_listing_of_long :
    let name := String.ofList (List.replicate 70 'a')
    let text := "[Rule]\nDOMAIN," ++ name ++ ",REJECT\nFINAL,DIRECT\n"
    ∃ output, run (.ofText text) listingWords = .done output ∧
      parseConfig (String.ofList output) = ⟨[], .direct⟩ ∧
      parseConfig text = ⟨[⟨.domain, some name, .reject⟩], .direct⟩ ∧
      parseConfig (String.ofList output) ≠ parseConfig text := by
  intro name text
  have h := asksForListing_ofText text
  have htext : String.ofList (unifyBreaks text.toList) = text := by decide +kernel
  rw [htext] at h
  have hfile : parseConfig text = ⟨[⟨.domain, some name, .reject⟩], .direct⟩ := by decide +kernel
  have hlisting : parseConfig (String.ofList (listing (parseConfig text))) = ⟨[], .direct⟩ := by
    rw [parseConfig_listing (isPlain_parseConfig text), hfile]
    decide +kernel
  refine ⟨listing (parseConfig text), h.run_eq, hlisting, hfile, ?_⟩
  rw [hlisting, hfile]
  simp

end Cli

end SocksRouter
