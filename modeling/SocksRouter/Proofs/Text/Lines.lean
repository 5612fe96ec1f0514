import Mathlib.Data.List.Basic
import SocksRouter.Text.Lines

/-!
# Cutting a text into lines

A line feed ends a line wherever it stands, also behind a carriage return. So a text may be cut at
any line feed and its two halves be read apart (`lines_append_newline`), and what stands in front of
it has the same lines as without it, up to an empty one (`lines_newline_eq_or`). No line holds a
break (`not_isLineBreak_of_mem_lines`), and lines without breaks that are written one after another
are read back as they were (`lines_unlines_append`). The other breaks do the same, up to an empty
line where the pair of both is cut in two (`lines_append_of_getLast?`). A line with a break inside
is read as lines of which none has both its beginning and its end (`isBroken_lines`). Unifying
breaks changes no line (`lines_unifyBreaks`).
-/

namespace SocksRouter.Text

theorem linesFrom_newline (line rest : List Char) :
    linesFrom line ('\n' :: rest) = line.reverse :: linesFrom [] rest := by
  rw [linesFrom.eq_3 _ _ _ (by simp), if_pos (by decide)]

/-- A character that is no break belongs to the line. -/
theorem linesFrom_cons {c : Char} (h : isLineBreak c = false) (line rest : List Char) :
    linesFrom line (c :: rest) = linesFrom (c :: line) rest := by
  have hc : c ≠ '\r' := by
    rintro rfl
    simp [isLineBreak] at h
  rw [linesFrom.eq_3 _ _ _ (fun _ heq ↦ absurd heq hc), h]
  rfl

/-- A break that does not start a pair ends the line. -/
theorem linesFrom_break {c : Char} (h : isLineBreak c = true) {rest : List Char}
    (hpair : c = '\r' → rest.head? ≠ some '\n') (line : List Char) :
    linesFrom line (c :: rest) = line.reverse :: lines rest := by
  rw [linesFrom.eq_3 _ _ _ (by rintro more hc rfl; exact hpair hc rfl), if_pos h, lines]

/-- A break ends the line in the same way whatever is written behind the text, unless it is a
carriage return at the end of it and a line feed follows. -/
theorem linesFrom_break_append {c : Char} (h : isLineBreak c = true) {rest more : List Char}
    (hpair : ∀ more, c = '\r' → rest = '\n' :: more → False)
    (hlast : c = '\r' → rest = [] → more.head? ≠ some '\n') (line : List Char) :
    linesFrom line (c :: (rest ++ more)) = line.reverse :: lines (rest ++ more) := by
  refine linesFrom_break h (fun hc ↦ ?_) line
  rcases rest with - | ⟨d, rest⟩
  · exact hlast hc rfl
  · rw [List.cons_append, List.head?_cons, ne_eq, Option.some.injEq]
    rintro rfl
    exact hpair rest hc rfl

theorem linesFrom_append_newline (line s t : List Char) :
    linesFrom line (s ++ '\n' :: t) = linesFrom line (s ++ ['\n']) ++ lines t := by
  fun_induction linesFrom line s with
  | case1 | case2 => simp [linesFrom_newline, linesFrom, lines]
  | case3 line rest ih => simp only [List.cons_append, linesFrom, ih]
  | case4 line c rest hpair hbreak ih =>
    by_cases hlast : c = '\r' ∧ rest = []
    · obtain ⟨rfl, rfl⟩ := hlast
      simp [linesFrom, lines]
    · have hlast : c = '\r' → rest ≠ [] := fun hc hrest ↦ hlast ⟨hc, hrest⟩
      rw [List.cons_append, List.cons_append,
        linesFrom_break_append hbreak hpair fun hc hrest ↦ absurd hrest (hlast hc),
        linesFrom_break_append hbreak hpair fun hc hrest ↦ absurd hrest (hlast hc),
        List.cons_append]
      exact congrArg _ ih
  | case5 line c rest hpair hbreak ih =>
    have hbreak : isLineBreak c = false := by simpa using hbreak
    rw [List.cons_append, List.cons_append, linesFrom_cons hbreak, linesFrom_cons hbreak, ih]

/-- **A text may be cut behind any line feed.** -/
theorem lines_append_newline (s t : List Char) :
    lines (s ++ '\n' :: t) = lines (s ++ ['\n']) ++ lines t :=
  linesFrom_append_newline [] s t

theorem linesFrom_newline_eq_or (line s : List Char) :
    linesFrom line (s ++ ['\n']) = linesFrom line s ∨
      linesFrom line (s ++ ['\n']) = linesFrom line s ++ [[]] := by
  fun_induction linesFrom line s with
  | case1 line h => simp [linesFrom_newline, linesFrom, List.isEmpty_iff.1 h]
  | case2 line h => simp [linesFrom_newline, linesFrom]
  | case3 line rest ih => simpa [linesFrom] using ih
  | case4 line c rest hpair hbreak ih =>
    by_cases hlast : c = '\r' ∧ rest = []
    · obtain ⟨rfl, rfl⟩ := hlast
      simp [linesFrom]
    · rw [List.cons_append, linesFrom_break_append hbreak hpair
        fun hc hrest ↦ absurd ⟨hc, hrest⟩ hlast]
      simpa [lines] using ih
  | case5 line c rest hpair hbreak ih =>
    rwa [List.cons_append, linesFrom_cons (by simpa using hbreak)]

/-- A line feed behind a text adds at most an empty line. -/
theorem lines_newline_eq_or (s : List Char) :
    lines (s ++ ['\n']) = lines s ∨ lines (s ++ ['\n']) = lines s ++ [[]] :=
  linesFrom_newline_eq_or [] s

/-- A break: one of the characters that end a line, or the pair of carriage return and line feed. -/
def IsBreak (s : List Char) : Prop :=
  s = ['\r', '\n'] ∨ ∃ c, isLineBreak c = true ∧ s = [c]

/-- A text is cut behind a break that it ends in. Only a carriage return takes the line feed behind
it as well. -/
theorem linesFrom_append_of_getLast? {line s : List Char} (hline : s = [] → line = [])
    (hs : ∀ c ∈ s.getLast?, isLineBreak c = true) (t : List Char) :
    ∃ ls, linesFrom line (s ++ t) = linesFrom line s ++ ls ∧
      (lines t = ls ∨ lines t = [] :: ls) := by
  fun_induction linesFrom line s with
  | case1 line h => exact ⟨lines t, by rw [hline rfl]; rfl, .inl rfl⟩
  | case2 line h => simp [hline rfl] at h
  | case3 line rest ih =>
    obtain ⟨ls, heq, ht⟩ := ih (fun _ ↦ rfl) fun c hc ↦ hs c (by cases rest <;> simp_all)
    exact ⟨ls, by simp only [List.cons_append, linesFrom, heq], ht⟩
  | case4 line c rest hpair hbreak ih =>
    by_cases hlast : c = '\r' ∧ rest = [] ∧ t.head? = some '\n'
    · obtain ⟨rfl, rfl, ht⟩ := hlast
      obtain ⟨t, rfl⟩ := List.head?_eq_some_iff.1 ht
      exact ⟨lines t, by simp [linesFrom, lines], .inr (linesFrom_newline [] t)⟩
    · obtain ⟨ls, heq, ht⟩ := ih (fun _ ↦ rfl) fun d hd ↦ hs d (by cases rest <;> simp_all)
      refine ⟨ls, ?_, ht⟩
      rw [List.cons_append, linesFrom_break_append hbreak hpair
        fun hc hrest hhead ↦ hlast ⟨hc, hrest, hhead⟩, List.cons_append]
      exact congrArg _ heq
  | case5 line c rest hpair hbreak ih =>
    have hbreak : isLineBreak c = false := by simpa using hbreak
    have hrest : rest ≠ [] := by
      rintro rfl
      rw [hs c rfl] at hbreak
      contradiction
    obtain ⟨ls, heq, ht⟩ := ih (fun h ↦ absurd h hrest) fun d hd ↦ hs d (by cases rest <;> simp_all)
    exact ⟨ls, by rw [List.cons_append, linesFrom_cons hbreak, heq], ht⟩

/-- **A text may be cut behind any break**, up to an empty line where a pair is cut in two. -/
theorem lines_append_of_getLast? {s : List Char} (hs : ∀ c ∈ s.getLast?, isLineBreak c = true)
    (t : List Char) :
    ∃ ls, lines (s ++ t) = lines s ++ ls ∧ (lines t = ls ∨ lines t = [] :: ls) :=
  linesFrom_append_of_getLast? (fun _ ↦ rfl) hs t

theorem not_isLineBreak_of_mem_linesFrom {line s : List Char}
    (hline : ∀ c ∈ line, isLineBreak c = false) :
    ∀ l ∈ linesFrom line s, ∀ c ∈ l, isLineBreak c = false := by
  fun_induction linesFrom line s with
  | case1 line h => simp
  | case2 line h => simpa using hline
  | case3 line rest ih | case4 line c rest hpair hbreak ih =>
    intro l hl
    rcases List.mem_cons.1 hl with rfl | hl
    · simpa using hline
    · exact ih (by simp) l hl
  | case5 line c rest hpair hbreak ih =>
    refine ih fun d hd ↦ ?_
    rcases List.mem_cons.1 hd with rfl | hd
    · simpa using hbreak
    · exact hline d hd

/-- A line holds no break. -/
theorem not_isLineBreak_of_mem_lines {s l : List Char} (h : l ∈ lines s) :
    ∀ c ∈ l, isLineBreak c = false :=
  not_isLineBreak_of_mem_linesFrom (by simp) l h

theorem linesFrom_append {l : List Char} (h : ∀ c ∈ l, isLineBreak c = false)
    (line rest : List Char) : linesFrom line (l ++ rest) = linesFrom (l.reverse ++ line) rest := by
  induction l generalizing line with
  | nil => rfl
  | cons c l ih =>
    rw [List.cons_append, linesFrom_cons (h c List.mem_cons_self),
      ih (fun d hd ↦ h d (List.mem_cons_of_mem _ hd)), List.reverse_cons, List.append_assoc,
      List.singleton_append]

/-- Lines without breaks, each written with a line feed behind it. -/
def unlines (ls : List (List Char)) : List Char :=
  ls.flatMap fun l ↦ l ++ ['\n']

theorem unlines_cons (l : List Char) (ls : List (List Char)) :
    unlines (l :: ls) = l ++ '\n' :: unlines ls := by
  simp [unlines]

theorem intercalate_newline {ls : List (List Char)} (h : ls ≠ []) :
    ['\n'].intercalate ls ++ ['\n'] = unlines ls := by
  induction ls with
  | nil => exact absurd rfl h
  | cons l rest ih =>
    rcases rest with - | ⟨l', rest⟩
    · simp [unlines]
    · rw [List.intercalate_cons_cons, List.append_assoc, ih (List.cons_ne_nil _ _)]
      simp [unlines]

/-- **What is written line by line is read line by line**, whatever follows. -/
theorem lines_unlines_append {ls : List (List Char)}
    (h : ∀ l ∈ ls, ∀ c ∈ l, isLineBreak c = false) (t : List Char) :
    lines (unlines ls ++ t) = ls ++ lines t := by
  induction ls with
  | nil => rfl
  | cons l ls ih =>
    have hrest := ih fun m hm ↦ h m (List.mem_cons_of_mem _ hm)
    have hl := h l List.mem_cons_self
    rw [unlines, List.flatMap_cons, ← unlines, List.append_assoc, List.append_assoc,
      List.singleton_append, lines, linesFrom_append hl, linesFrom_newline, ← lines, hrest]
    simp

/-- A line without breaks is read as it was written, whatever break ends it. -/
theorem lines_append_break {l b : List Char} (hl : ∀ c ∈ l, isLineBreak c = false)
    (hb : IsBreak b) : lines (l ++ b) = [l] := by
  rw [lines, linesFrom_append hl, List.append_nil]
  obtain rfl | ⟨c, hc, rfl⟩ := hb
  · simp [linesFrom]
  · rw [linesFrom_break hc (by simp), List.reverse_reverse]
    rfl

theorem lines_newline {l : List Char} (h : ∀ c ∈ l, isLineBreak c = false) :
    lines (l ++ ['\n']) = [l] :=
  lines_append_break h (.inr ⟨'\n', by decide, rfl⟩)

/-! ### Breaks inside a line -/

/-- The lines `ls` of a text that breaks somewhere in the stretch `s`: what stands before the
stretch and what stands after it are in different lines. -/
def IsBroken (before s after : List Char) (ls : List (List Char)) : Prop :=
  ∃ first middle last, ls = (before ++ first) :: (middle ++ [last ++ after]) ∧
    ∀ l ∈ first :: last :: middle, l ⊆ s

/-- Behind a break in the stretch the rest of it makes lines of its own. -/
theorem isBroken_of_break {before s rest after : List Char} (hrest : rest ⊆ s)
    (hafter : ∀ c ∈ after, isLineBreak c = false)
    (h : (∀ c ∈ rest, isLineBreak c = false) ∨
      IsBroken [] rest after (linesFrom [] (rest ++ (after ++ ['\n'])))) :
    IsBroken before s after (before :: linesFrom [] (rest ++ (after ++ ['\n']))) := by
  obtain hclean | ⟨first, middle, last, hlines, hsub⟩ := h
  · refine ⟨[], [], rest, ?_, by simpa using hrest⟩
    rw [linesFrom_append hclean, linesFrom_append hafter, linesFrom_newline]
    simp [linesFrom]
  · refine ⟨[], first :: middle, last, by rw [hlines]; simp, ?_⟩
    simp only [List.forall_mem_cons] at hsub ⊢
    exact ⟨List.nil_subset _, List.Subset.trans hsub.2.1 hrest, List.Subset.trans hsub.1 hrest,
      fun l hl ↦ List.Subset.trans (hsub.2.2 l hl) hrest⟩

/-- A stretch has no break, or what stands before it and what stands after it are in different
lines. -/
theorem isBroken_linesFrom {after : List Char} (hafter : ∀ c ∈ after, isLineBreak c = false)
    (hne : after ≠ []) (line s : List Char) :
    (∀ c ∈ s, isLineBreak c = false) ∨
      IsBroken line.reverse s after (linesFrom line (s ++ (after ++ ['\n']))) := by
  fun_induction linesFrom line s with
  | case1 line h | case2 line h => exact .inl (by simp)
  | case3 line rest ih =>
    rw [List.cons_append, List.cons_append, linesFrom]
    exact .inr (isBroken_of_break (by simp) hafter ih)
  | case4 line c rest hpair hbreak ih =>
    have hlast : (after ++ ['\n']).head? ≠ some '\n' := by
      rw [List.head?_append_of_ne_nil _ hne]
      exact fun h ↦ absurd (hafter _ (List.mem_of_head? h)) (by decide)
    rw [List.cons_append, linesFrom_break_append hbreak hpair fun _ _ ↦ hlast, lines]
    exact .inr (isBroken_of_break (by simp) hafter ih)
  | case5 line c rest hpair hbreak ih =>
    have hbreak : isLineBreak c = false := by simpa using hbreak
    rw [List.cons_append, linesFrom_cons hbreak]
    refine ih.imp (fun h ↦ List.forall_mem_cons.2 ⟨hbreak, h⟩) ?_
    rintro ⟨first, middle, last, hlines, hsub⟩
    refine ⟨c :: first, middle, last, by rw [hlines]; simp, ?_⟩
    simp only [List.forall_mem_cons] at hsub ⊢
    have hgrow : rest ⊆ c :: rest := List.subset_cons_self c rest
    exact ⟨List.cons_subset_cons c hsub.1, List.Subset.trans hsub.2.1 hgrow,
      fun l hl ↦ List.Subset.trans (hsub.2.2 l hl) hgrow⟩

/-- **A text either has no break in a stretch, or is cut there**, so that what stands before the
stretch and what stands after it are in different lines. -/
theorem isBroken_lines {before after : List Char} (hbefore : ∀ c ∈ before, isLineBreak c = false)
    (hafter : ∀ c ∈ after, isLineBreak c = false) (hne : after ≠ []) (s : List Char) :
    (∀ c ∈ s, isLineBreak c = false) ∨
      IsBroken before s after (lines (before ++ (s ++ (after ++ ['\n'])))) := by
  have h := isBroken_linesFrom hafter hne before.reverse s
  rwa [List.reverse_reverse, ← List.append_nil before.reverse, ← linesFrom_append hbefore] at h

/-! ### Unified breaks -/

theorem linesFrom_unifyBreaks (line s : List Char) :
    linesFrom line (unifyBreaks s) = linesFrom line s := by
  fun_induction linesFrom line s with
  | case1 line h => rw [unifyBreaks, linesFrom, if_pos h]
  | case2 line h => rw [unifyBreaks, linesFrom, if_neg h]
  | case3 line rest ih => rw [unifyBreaks, linesFrom_newline, ih]
  | case4 line c rest hpair hbreak ih =>
    rw [unifyBreaks.eq_3 _ _ hpair]
    split
    · rw [linesFrom_newline, ih]
    · rename_i hc
      rw [linesFrom_break hbreak (fun heq ↦ absurd heq hc), lines, ih]
  | case5 line c rest hpair hbreak ih =>
    have hbreak : isLineBreak c = false := by simpa using hbreak
    have hc : c ≠ '\r' := by
      rintro rfl
      contradiction
    rw [unifyBreaks.eq_3 _ _ hpair, if_neg hc, linesFrom_cons hbreak, ih]

/-- **Unifying the breaks of a text changes none of its lines**, nor how many there are. -/
theorem lines_unifyBreaks (s : List Char) : lines (unifyBreaks s) = lines s :=
  linesFrom_unifyBreaks [] s

end SocksRouter.Text
