import SocksRouter.Proofs.Rule.Line

/-!
# The form of a rule line

A rule line is `FINAL` and an action, or a kind, a pattern and an action, with commas between them
and any blanks around each of them. `RuleForm` is a line taken apart in this way, down to every
blank, so it says which texts are rule lines without saying how they are read.

A line is read as a rule just when it has such a form, and then it has one form only
(`exists_form_or_parseRule?_eq_none`). Two facts carry it.

* The fields of a line are fixed by its commas, and a word by the field it stands in, since it
  neither starts nor ends with a blank (`Margin.around_inj`). So a text has at most one form
  (`RuleForm.text_inj`).
* Whatever is read as a rule has the words of it in its fields (`exists_form_of_parseLine`).
-/

namespace SocksRouter

open Text

/-! ### Words and what stands around them -/

/-- The blanks on the two sides of a word. -/
@[ext]
structure Margin where
  /-- The blanks in front of it. -/
  left : List Char
  /-- The blanks behind it. -/
  right : List Char
  left_blank : ∀ c ∈ left, isBlank c = true
  right_blank : ∀ c ∈ right, isBlank c = true

namespace Margin

variable {margin margin' : Margin} {word word' : List Char}

/-- A word with its margins. -/
def around (margin : Margin) (word : List Char) : List Char :=
  margin.left ++ (word ++ margin.right)

theorem strip_around (hne : word ≠ []) (htrimmed : IsTrimmed word) (margin : Margin) :
    strip (margin.around word) = word := by
  rw [strip_eq_stripOf, around]
  exact stripOf_append margin.left_blank margin.right_blank hne htrimmed.1 htrimmed.2

/-- Every field is what trimming leaves of it, with margins. -/
theorem exists_eq_around_strip (field : List Char) :
    ∃ margin : Margin, field = margin.around (strip field) := by
  obtain ⟨left, right, heq, hleft, hright⟩ := exists_eq_append_stripOf isBlank field
  exact ⟨⟨left, right, hleft, hright⟩, heq⟩

theorem comma_not_mem_around (h : ',' ∉ word) (margin : Margin) : ',' ∉ margin.around word := by
  have hblank : isBlank ',' ≠ true := by decide
  simp only [around, List.mem_append, not_or]
  exact ⟨fun hc ↦ hblank (margin.left_blank _ hc), h, fun hc ↦ hblank (margin.right_blank _ hc)⟩

/-- **A field can be taken apart in one way only.** -/
theorem around_inj (hne : word ≠ []) (htrimmed : IsTrimmed word) (hne' : word' ≠ [])
    (htrimmed' : IsTrimmed word') (h : margin.around word = margin'.around word') :
    margin = margin' ∧ word = word' := by
  obtain rfl : word = word' := by
    rw [← strip_around hne htrimmed margin, h, strip_around hne' htrimmed']
  -- The word starts where the first character is that is no blank.
  have hrest : ∀ m : Margin, (m.around word).dropWhile isBlank = word ++ m.right := by
    intro m
    refine dropWhile_append_of_head? m.left_blank fun c hc ↦ htrimmed.1 c ?_
    rwa [List.head?_append_of_ne_nil _ hne] at hc
  have hbehind : word ++ margin.right = word ++ margin'.right := by rw [← hrest, h, hrest]
  have hright : margin.right = margin'.right := List.append_cancel_left hbehind
  have hleft : margin.left = margin'.left := by
    rw [around, around, hright] at h
    exact List.append_cancel_right h
  exact ⟨Margin.ext hleft hright, rfl⟩

end Margin

/-- A pattern as it may stand in a line. -/
@[ext]
structure LinePattern where
  /-- Its characters. -/
  text : List Char
  ne_nil : text ≠ []
  comma_not_mem : ',' ∉ text
  strip_eq_self : strip text = text

theorem LinePattern.isTrimmed (pattern : LinePattern) : IsTrimmed pattern.text := by
  rw [← pattern.strip_eq_self]
  exact isTrimmed_strip _

/-! ### Forms -/

/-- A rule line taken apart into its words and their margins. -/
inductive RuleForm
  /-- A final rule: the word for it, and an action. -/
  | final (kindMargin actionMargin : Margin) (action : Action)
  /-- Any other rule: a kind, a pattern and an action. -/
  | other (kindMargin patternMargin actionMargin : Margin) (kind : RuleKind)
      (kind_ne_final : kind ≠ .final) (pattern : LinePattern) (action : Action)

namespace RuleForm

/-- The characters of the line. -/
def text : RuleForm → List Char
  | final kindMargin actionMargin action =>
    kindMargin.around "FINAL".toList ++ ',' :: actionMargin.around action.token.toList
  | other kindMargin patternMargin actionMargin kind _ pattern action =>
    kindMargin.around kind.token.toList ++
      ',' :: (patternMargin.around pattern.text ++
        ',' :: actionMargin.around action.token.toList)

/-- The rule that the line says; its pattern is kept in lower case. -/
def rule : RuleForm → Rule
  | final _ _ action => ⟨.final, none, action⟩
  | other _ _ _ kind _ pattern action => ⟨kind, some (String.ofList (lower pattern.text)), action⟩

/-- What stands between the commas of the line. -/
def pieces : RuleForm → List (List Char)
  | final kindMargin actionMargin action =>
    [kindMargin.around "FINAL".toList, actionMargin.around action.token.toList]
  | other kindMargin patternMargin actionMargin kind _ pattern action =>
    [kindMargin.around kind.token.toList, patternMargin.around pattern.text,
      actionMargin.around action.token.toList]

theorem isPlainWord_final : IsPlainWord "FINAL".toList :=
  RuleKind.final.isPlainWord_token

theorem fields_text (form : RuleForm) : fields (· == ',') form.text = form.pieces := by
  have hword : ∀ {word : List Char}, ',' ∉ word → ∀ margin : Margin,
      fields (· == ',') (margin.around word) = [margin.around word] :=
    fun hword margin ↦ fields_of_not_mem (margin.comma_not_mem_around hword)
  cases form with
  | final kindMargin actionMargin action =>
    rw [text, fields_append (by decide), hword isPlainWord_final.comma_not_mem,
      hword action.isPlainWord_token.comma_not_mem]
    rfl
  | other kindMargin patternMargin actionMargin kind hkind pattern action =>
    rw [text, fields_append (by decide), fields_append (by decide),
      hword kind.isPlainWord_token.comma_not_mem, hword pattern.comma_not_mem,
      hword action.isPlainWord_token.comma_not_mem]
    rfl

end RuleForm

theorem RuleKind.token_toList_inj {kind kind' : RuleKind}
    (h : kind.token.toList = kind'.token.toList) : kind = kind' := by
  have hword := RuleKind.ofToken?_token kind
  rw [String.toList_inj.1 h, RuleKind.ofToken?_token] at hword
  exact (Option.some.inj hword).symm

theorem Action.token_toList_inj {action action' : Action}
    (h : action.token.toList = action'.token.toList) : action = action' := by
  have hword := Action.ofToken?_token action
  rw [String.toList_inj.1 h, Action.ofToken?_token] at hword
  exact (Option.some.inj hword).symm

namespace IsPlainWord

/-- A plain word in a field is read from it, and can be found there in one way only. -/
theorem around_inj {word word' : List Char} {margin margin' : Margin} (h : IsPlainWord word)
    (h' : IsPlainWord word') (heq : margin.around word = margin'.around word') :
    margin = margin' ∧ word = word' :=
  Margin.around_inj h.ne_nil h.isTrimmed h'.ne_nil h'.isTrimmed heq

theorem strip_around {word : List Char} (h : IsPlainWord word) (margin : Margin) :
    strip (margin.around word) = word :=
  Margin.strip_around h.ne_nil h.isTrimmed margin

end IsPlainWord

namespace RuleForm

/-- **A line has one form only.** -/
theorem text_inj {form form' : RuleForm} (h : form.text = form'.text) : form = form' := by
  have hpieces : form.pieces = form'.pieces := by rw [← fields_text, h, fields_text]
  cases form with
  | final kindMargin actionMargin action =>
    cases form' with
    | final kindMargin' actionMargin' action' =>
      simp only [pieces, List.cons.injEq, and_true] at hpieces
      obtain ⟨rfl, -⟩ := isPlainWord_final.around_inj isPlainWord_final hpieces.1
      obtain ⟨rfl, haction⟩ := action.isPlainWord_token.around_inj action'.isPlainWord_token
        hpieces.2
      rw [Action.token_toList_inj haction]
    | other => simp [pieces] at hpieces
  | other kindMargin patternMargin actionMargin kind hkind pattern action =>
    cases form' with
    | final => simp [pieces] at hpieces
    | other kindMargin' patternMargin' actionMargin' kind' hkind' pattern' action' =>
      simp only [pieces, List.cons.injEq, and_true] at hpieces
      obtain ⟨hfirst, hsecond, hthird⟩ := hpieces
      obtain ⟨rfl, hkinds⟩ := kind.isPlainWord_token.around_inj kind'.isPlainWord_token hfirst
      obtain ⟨rfl, hpatterns⟩ := Margin.around_inj pattern.ne_nil pattern.isTrimmed
        pattern'.ne_nil pattern'.isTrimmed hsecond
      obtain ⟨rfl, hactions⟩ := action.isPlainWord_token.around_inj action'.isPlainWord_token
        hthird
      obtain rfl := RuleKind.token_toList_inj hkinds
      rw [LinePattern.ext hpatterns, Action.token_toList_inj hactions]

/-- **A line with a form is read as the rule it says.** -/
theorem parseLine_text (form : RuleForm) : parseLine form.text = (some form.rule, []) := by
  rw [parseLine, fields_text]
  cases form with
  | final kindMargin actionMargin action =>
    simp only [pieces, List.map_cons, List.map_nil, isPlainWord_final.strip_around,
      action.isPlainWord_token.strip_around, String.ofList_toList, Action.ofToken?_token]
    rfl
  | other kindMargin patternMargin actionMargin kind hkind pattern action =>
    have hmake : Rule.make kind (some (String.ofList pattern.text)) action =
        .ok ⟨kind, some (String.ofList (lower pattern.text)), action⟩ := by
      refine Rule.make_some_eq_ok_iff.2 ⟨hkind, mt String.ofList_eq_empty_iff.1 pattern.ne_nil, ?_⟩
      rw [String.toList_ofList]
    simp only [pieces, List.map_cons, List.map_nil, kind.isPlainWord_token.strip_around,
      action.isPlainWord_token.strip_around, Margin.strip_around pattern.ne_nil pattern.isTrimmed,
      String.ofList_toList, RuleKind.ofToken?_token, Action.ofToken?_token, hmake]
    rfl

end RuleForm

/-- A field that is read as a word is that word in its margins. -/
theorem exists_eq_around {field : List Char} {word : String}
    (h : String.ofList (strip field) = word) :
    ∃ margin : Margin, field = margin.around word.toList := by
  rw [← h, String.toList_ofList]
  exact Margin.exists_eq_around_strip field

/-- A field that is not blank is a pattern in its margins. -/
theorem exists_eq_around_pattern {line field : List Char} (hfield : field ∈ fields (· == ',') line)
    (hne : strip field ≠ []) :
    ∃ (margin : Margin) (pattern : LinePattern), field = margin.around pattern.text := by
  obtain ⟨margin, heq⟩ := Margin.exists_eq_around_strip field
  have hcomma : ',' ∉ strip field := by
    intro hmem
    have hsep := not_separator_of_mem_fields hfield ',' ((strip_isInfix field).subset hmem)
    simp at hsep
  exact ⟨margin, ⟨strip field, hne, hcomma, strip_eq_self (isTrimmed_strip field)⟩, heq⟩

/-- **Whatever is read as a rule has the form of one.** -/
theorem exists_form_of_parseLine {line : List Char} {rule : Rule}
    (h : (parseLine line).1 = some rule) : ∃ form : RuleForm, form.text = line := by
  have hline : [','].intercalate (fields (· == ',') line) = line := (fields_eq_iff.1 rfl).2.2
  obtain ⟨first, second, action, hfields, hfirst, hsecond, -⟩ |
    ⟨first, second, third, kind, action, hfields, hfirst, hthird, hkind, hne, -⟩ :=
    fields_of_parseLine h
  · obtain ⟨kindMargin, rfl⟩ := exists_eq_around hfirst
    obtain ⟨actionMargin, rfl⟩ := exists_eq_around hsecond
    refine ⟨.final kindMargin actionMargin action, ?_⟩
    rw [← hline, hfields]
    simp [RuleForm.text, RuleKind.token]
  · have hmem : second ∈ fields (· == ',') line := by simp [hfields]
    obtain ⟨kindMargin, rfl⟩ := exists_eq_around hfirst
    obtain ⟨patternMargin, pattern, rfl⟩ := exists_eq_around_pattern hmem hne
    obtain ⟨actionMargin, rfl⟩ := exists_eq_around hthird
    refine ⟨.other kindMargin patternMargin actionMargin kind hkind pattern action, ?_⟩
    rw [← hline, hfields]
    simp [RuleForm.text]

/-- **A line is a rule just when it has the form of one**, and then it has one form only and is read
as the rule that this form says. Any other line is none. -/
theorem exists_form_or_parseRule?_eq_none (line : String) :
    (∃ form : RuleForm, (∀ other : RuleForm, other.text = line.toList ↔ other = form) ∧
        parseRule? line = some form.rule) ∨
      (∀ form : RuleForm, form.text ≠ line.toList) ∧ parseRule? line = none := by
  by_cases hform : ∃ form : RuleForm, form.text = line.toList
  · obtain ⟨form, htext⟩ := hform
    refine .inl ⟨form, fun other ↦ ⟨fun hother ↦ ?_, fun hother ↦ hother ▸ htext⟩, ?_⟩
    · exact RuleForm.text_inj (hother.trans htext.symm)
    · rw [parseRule?, ← htext, form.parseLine_text]
  · have hnone : parseRule? line = none :=
      Option.eq_none_iff_forall_ne_some.2 fun _ hrule ↦ hform (exists_form_of_parseLine hrule)
    exact .inr ⟨fun form htext ↦ hform ⟨form, htext⟩, hnone⟩

/-- A line with blanks of several kinds around its words; the pattern keeps those inside it. -/
example : parseRule? "\u00A0DOMAIN-KEYWORD\t,\u3000Ab \u2028C ,Proxy" =
    some ⟨.domainKeyword, some "ab \u2028c", .proxy⟩ := by
  decide +kernel

end SocksRouter
