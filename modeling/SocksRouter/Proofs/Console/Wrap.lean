import SocksRouter.Console.Wrap
import SocksRouter.Proofs.Console.Cells
import SocksRouter.Proofs.Text.Fields
import SocksRouter.Proofs.Text.Lines

/-!
# Lines as the console shows them

Text without styles is shown line by line (`printed_unlines`), and each line as one or more lines
(`shownLines`). A line without tabs that is not wider than the console is shown as it is
(`shownLines_eq_singleton`), and of a wider one no piece has all characters
(`isShort_of_mem_shownLines`).

Whatever becomes of a line, showing it adds nothing but spaces
(`unspaced_shownLines_sublist`): each step on the way keeps the characters in order, or loses some.
-/

namespace SocksRouter.Console

open Text

/-! ### Texts without styles -/

/-- A text to which no style applies. -/
def bare (s : List Char) : Styled :=
  ⟨s, []⟩

/-- The text cut off at a width, if it does not fit. -/
def fitted (width : Nat) (s : List Char) : List Char :=
  if cells s ≤ width then s else crop width s

theorem isCut_fitted (width : Nat) (s : List Char) : IsCut s (fitted width s) := by
  rw [fitted]
  split
  · exact .refl s
  · exact isCut_crop width s

namespace Styled

theorem pieces_bare (s : List Char) (gap start : Nat) (contents : List (List Char)) :
    (bare s).pieces gap start contents = contents.map bare := by
  induction contents generalizing start with
  | nil => rfl
  | cons content rest ih =>
    rw [pieces, ih]
    rfl

theorem divide_bare (s : List Char) (gap : Nat) (contents : List (List Char)) :
    (bare s).divide gap contents = contents.map bare := by
  rw [divide.eq_def]
  split
  · rfl
  · exact pieces_bare s gap 0 contents

theorem cutTo_bare (s t : List Char) : (bare s).cutTo t = bare t := by
  rw [cutTo]
  split <;> rfl

theorem truncate_bare (width : Nat) (s : List Char) :
    truncate .fold width (bare s) = bare (fitted width s) := by
  rw [truncate, fitted]
  split
  · rename_i hfits
    exact congrArg bare (if_pos hfits).symm
  · rename_i hwide
    exact (cutTo_bare s _).trans (congrArg bare (if_neg hwide).symm)

theorem join_bare (parts : List (List Char)) :
    join (parts.map bare) = bare parts.flatten := by
  induction parts with
  | nil => rfl
  | cons part rest ih =>
    rw [List.map_cons, List.flatten_cons, join, List.foldr_cons, ← join, ih]
    rfl

theorem stretchesFrom_bare (s stretch : List Char) (position : Nat) (t : List Char) :
    (bare s).stretchesFrom stretch position t = [stretch.reverse ++ t] := by
  induction t generalizing stretch position with
  | nil => simp [stretchesFrom]
  | cons c rest ih =>
    have hedge : (bare s).isEdge position = false := rfl
    rw [stretchesFrom, hedge, if_neg Bool.false_ne_true, ih, List.reverse_cons, List.append_assoc,
      List.singleton_append]

/-- A text without styles is drawn in one stretch. -/
theorem limit_bare (width : Nat) (s : List Char) : limit width (bare s) = fitted width s := by
  have hstretches : (bare s).stretches = [s] := stretchesFrom_bare s [] 0 s
  have hwidth : drawnWidth [s] = cells s := Nat.add_zero _
  rw [limit, hstretches, fitted]
  simp only [hwidth]
  split
  · rfl
  · rename_i hwide
    rw [cropStretches, if_neg (by omega), if_neg (by omega)]
    exact List.append_nil _

end Styled

/-! ### Spaces and tabs -/

/-- The characters of a text that are no spaces. -/
def unspaced (s : List Char) : List Char :=
  s.filter (· ≠ ' ')

theorem unspaced_append (s t : List Char) : unspaced (s ++ t) = unspaced s ++ unspaced t :=
  List.filter_append s t

theorem unspaced_blanks (n : Nat) : unspaced (blanks n) = [] := by
  simp [unspaced, blanks]

theorem unspaced_flatten (parts : List (List Char)) :
    unspaced parts.flatten = (parts.map unspaced).flatten :=
  List.filter_flatten

/-- Filling up tabs puts spaces behind the parts of a line. -/
theorem exists_fillTabs_bare (position : Nat) (parts : List (List Char)) :
    ∃ filled : List (List Char), fillTabs position (parts.map bare) = filled.map bare ∧
      unspaced filled.flatten = unspaced parts.flatten := by
  induction parts generalizing position with
  | nil => exact ⟨[], rfl, rfl⟩
  | cons part rest ih =>
    cases rest with
    | nil => exact ⟨[part], rfl, rfl⟩
    | cons next more =>
      let reached := position + cells part
      obtain ⟨filled, heq, hsame⟩ := ih (tabStop reached)
      refine ⟨(part ++ blanks (tabStop reached - reached)) :: filled, ?_, ?_⟩
      · exact congrArg (_ :: ·) heq
      · rw [List.flatten_cons, List.flatten_cons, unspaced_append, unspaced_append, hsame,
          unspaced_append, unspaced_blanks, List.append_nil]

theorem unspaced_flatten_tabbedParts (line : List Char) :
    unspaced (tabbedParts line).flatten = unspaced (line.filter (· ≠ '\t')) := by
  obtain ⟨front, last, hfields⟩ : ∃ front last, fields (· == '\t') line = front ++ [last] :=
    (List.eq_nil_or_concat' _).resolve_left (fields_ne_nil _ _)
  have hline : front.flatten ++ last = line.filter (· ≠ '\t') := by
    rw [← List.flatten_concat, ← hfields, flatten_fields]
    exact List.filter_congr fun c _ ↦ Bool.eq_iff_iff.2 (by simp)
  have hfront : unspaced (front.map (· ++ blanks 1)).flatten = unspaced front.flatten := by
    simp [unspaced_flatten, Function.comp_def, unspaced_append, unspaced_blanks]
  rw [← hline, unspaced_append, ← hfront, tabbedParts, hfields]
  simp [unspaced_append]

/-- The line without its tabs, as a text. -/
def untabbed (line : List Char) : List Char :=
  (expandTabs (bare line)).content

/-- **A line without its tabs has what the line has**, but for tabs and spaces. -/
theorem untabbed_spec (line : List Char) :
    expandTabs (bare line) = bare (untabbed line) ∧
      unspaced (untabbed line) = unspaced (line.filter (· ≠ '\t')) := by
  obtain ⟨filled, heq, hsame⟩ := exists_fillTabs_bare 0 (tabbedParts line)
  have hexpand : expandTabs (bare line) = bare filled.flatten := by
    rw [expandTabs, Styled.divide_bare]
    exact (congrArg Styled.join heq).trans (Styled.join_bare filled)
  have huntabbed : untabbed line = filled.flatten := congrArg Styled.content hexpand
  rw [huntabbed, hsame, unspaced_flatten_tabbedParts]
  exact ⟨hexpand, rfl⟩

theorem untabbed_eq_self {line : List Char} (h : '\t' ∉ line) : untabbed line = line := by
  have hparts : tabbedParts line = [line] := by
    rw [tabbedParts, fields_of_not_mem h]
    rfl
  rw [untabbed, expandTabs, Styled.divide_bare, show (bare line).content = line from rfl, hparts]
  exact List.append_nil line

/-! ### Words -/

theorem flatten_wordsFrom_sublist (word s : List Char) :
    (wordsFrom word s).flatten.Sublist (word.reverse ++ s) := by
  fun_induction wordsFrom word s with
  | case1 word hblank => exact List.nil_sublist _
  | case2 word hblank => simp
  | case3 word c rest hbreak ih => simpa using ih.append_left word.reverse
  | case4 word c rest hbreak ih => simpa using ih

/-- **The words of a line are the line, and take no more cells**, once there is more than blanks. -/
theorem wordsFrom_spec {word : List Char} (hword : word.all isBlank = false) (s : List Char) :
    (wordsFrom word s).flatten = word.reverse ++ s ∧
      totalWidth ((wordsFrom word s).map cells) ≤ cells (word.reverse ++ s) := by
  fun_induction wordsFrom word s with
  | case1 word hblank => simp [hblank] at hword
  | case2 word hblank => simp [totalWidth]
  | case3 word c rest hbreak ih =>
    simp only [Bool.and_eq_true, Bool.not_eq_true'] at hbreak
    obtain ⟨hflatten, hwidth⟩ := ih (by simpa using hbreak.1.1)
    -- The word ends in a blank, which keeps the next one apart.
    have hlast : ∀ d ∈ word.reverse.getLast?, isBlank d = true := by
      rw [List.getLast?_reverse]
      intro d hd
      have := hbreak.1.2
      rw [Option.mem_def.1 hd] at this
      simpa using this
    have hcells := cells_add_le_cells_append hlast (c :: rest)
    refine ⟨by rw [List.flatten_cons, hflatten]; rfl, ?_⟩
    rw [List.map_cons, totalWidth_cons]
    exact (Nat.add_le_add_left hwidth _).trans hcells
  | case4 word c rest hbreak ih =>
    have := ih (by simp [hword])
    simpa using this

/-! ### Filling lines -/

namespace Filling

/-- The lines of a filling, in order. -/
def lines (filling : Filling) : List (List Char) :=
  (filling.current :: filling.complete).reverse

theorem flatten_lines_addLine (filling : Filling) (s : List Char) :
    (filling.addLine s).lines.flatten = filling.lines.flatten ++ s := by
  rw [addLine]
  split
  · rename_i hempty
    simp [lines, List.isEmpty_iff.1 hempty]
  · simp [lines]

theorem flatten_lines_foldl_addLine (filling : Filling) (pieces : List (List Char)) :
    (pieces.foldl addLine filling).lines.flatten = filling.lines.flatten ++ pieces.flatten := by
  induction pieces generalizing filling with
  | nil => simp
  | cons piece rest ih => simp [ih, flatten_lines_addLine]

/-- A word is put down once, and nothing else. -/
theorem flatten_lines_add_sublist (overflow : Overflow) (width : Nat) (filling : Filling)
    (word : List Char) :
    (filling.add overflow width word).lines.flatten.Sublist (filling.lines.flatten ++ word) := by
  rw [add]
  split
  · simp [lines]
  · split
    · split
      · simp [lines]
      · rw [flatten_lines_foldl_addLine]
        exact (flatten_chop_sublist width word).append_left _
    · rw [flatten_lines_addLine]

theorem flatten_lines_foldl_add_sublist (overflow : Overflow) (width : Nat) (filling : Filling)
    (words : List (List Char)) :
    (words.foldl (add overflow width) filling).lines.flatten.Sublist
      (filling.lines.flatten ++ words.flatten) := by
  induction words generalizing filling with
  | nil => simp
  | cons word rest ih =>
    rw [List.foldl_cons, List.flatten_cons, ← List.append_assoc]
    exact (ih _).trans ((flatten_lines_add_sublist overflow width filling word).append_right _)

/-- Words that fit are put on the current line. -/
theorem foldl_add_of_fits (overflow : Overflow) {width : Nat} (filling : Filling)
    {words : List (List Char)} (h : filling.used + totalWidth (words.map cells) ≤ width) :
    words.foldl (add overflow width) filling =
      { filling with
        current := filling.current ++ words.flatten
        used := filling.used + totalWidth (words.map cells) } := by
  induction words generalizing filling with
  | nil => simp [totalWidth]
  | cons word rest ih =>
    rw [List.map_cons, totalWidth_cons] at h
    obtain ⟨fill, hword⟩ := stripEnd_isPrefix word
    have hfits : cells (stripEnd word) ≤ cells word := by
      have := cells_le_cells_append (stripEnd word) fill
      rwa [hword] at this
    have hadd : filling.add overflow width word =
        { filling with current := filling.current ++ word, used := filling.used + cells word } :=
      if_pos (by omega)
    rw [List.foldl_cons, hadd, ih _ (by simpa [Nat.add_assoc] using h)]
    simp [totalWidth_cons, Nat.add_assoc]

end Filling

theorem flatten_breakLine_sublist (overflow : Overflow) (width : Nat) (line : List Char) :
    (breakLine overflow width line).flatten.Sublist line := by
  rw [breakLine]
  split
  · simp
  · exact (Filling.flatten_lines_foldl_add_sublist overflow width {} _).trans
      (flatten_wordsFrom_sublist [] line)

/-- **A line that fits is not broken**, unless it starts with a blank. -/
theorem breakLine_eq_singleton (overflow : Overflow) {width : Nat} {c : Char}
    (hc : isBlank c = false) {rest : List Char} (h : cells (c :: rest) ≤ width) :
    breakLine overflow width (c :: rest) = [c :: rest] := by
  have hwords : wordsWithBlanks (c :: rest) = wordsFrom [c] rest := by
    rw [wordsWithBlanks, wordsFrom]
    simp
  have hink : [c].all isBlank = false := by simp [hc]
  obtain ⟨hflatten, hwidth⟩ := wordsFrom_spec hink rest
  have hfits : 0 + totalWidth ((wordsFrom [c] rest).map cells) ≤ width := by
    rw [Nat.zero_add]
    exact hwidth.trans h
  have hfill := Filling.foldl_add_of_fits overflow {} hfits
  have hne : wordsFrom [c] rest ≠ [] := by
    intro hnil
    simp [hnil] at hflatten
  rw [breakLine, hwords]
  split
  · contradiction
  · simp [hfill, hflatten]

/-! ### Lines as they are shown -/

/-- What is shown of a piece of a line. -/
def shownPiece (piece : List Char) : List Char :=
  (place .asIs .fold consoleWidth (trimEnd consoleWidth (bare piece))).limit consoleWidth

/-- The lines that a line is shown as. -/
def shownLines (line : List Char) : List (List Char) :=
  (breakLine .fold consoleWidth (untabbed line)).map shownPiece

theorem shownPiece_eq (piece : List Char) :
    shownPiece piece =
      fitted consoleWidth
        (fitted consoleWidth (piece.take (max consoleWidth (stripEnd piece).length))) := by
  rw [shownPiece, trimEnd, Styled.cutTo_bare, place, Styled.truncate_bare, Styled.limit_bare]
  rfl

/-- A piece is shown up to some character of it, with spaces behind it. -/
theorem isCut_shownPiece (piece : List Char) : IsCut piece (shownPiece piece) := by
  have htake : IsCut piece (piece.take (max consoleWidth (stripEnd piece).length)) :=
    ⟨_, 0, (List.append_nil _).symm, List.take_prefix _ _⟩
  rw [shownPiece_eq]
  exact (htake.trans (isCut_fitted _ _)).trans (isCut_fitted _ _)

theorem unspaced_sublist_of_isCut {s t : List Char} (h : IsCut s t) :
    (unspaced t).Sublist (unspaced s) := by
  obtain ⟨kept, n, rfl, hkept⟩ := h
  rw [unspaced_append, unspaced_blanks, List.append_nil]
  exact hkept.sublist.filter _

theorem unspaced_map_shownPiece_sublist (pieces : List (List Char)) :
    (unspaced (pieces.map shownPiece).flatten).Sublist (unspaced pieces.flatten) := by
  induction pieces with
  | nil => exact List.Sublist.refl _
  | cons piece rest ih =>
    rw [List.map_cons, List.flatten_cons, List.flatten_cons, unspaced_append, unspaced_append]
    exact (unspaced_sublist_of_isCut (isCut_shownPiece piece)).append ih

/-- **Showing a line adds nothing but spaces**: the characters that are shown stand in the line in
the same order, and no tab is among them. -/
theorem unspaced_shownLines_sublist (line : List Char) :
    (unspaced (shownLines line).flatten).Sublist (unspaced (line.filter (· ≠ '\t'))) := by
  have hbreak := (flatten_breakLine_sublist .fold consoleWidth (untabbed line)).filter (· ≠ ' ')
  rw [← (untabbed_spec line).2]
  exact (unspaced_map_shownPiece_sublist _).trans hbreak

theorem tab_not_mem_shownLines {line shown : List Char} (h : shown ∈ shownLines line) :
    '\t' ∉ shown := by
  intro hmem
  have hall : '\t' ∈ unspaced (shownLines line).flatten :=
    List.mem_filter.2 ⟨List.mem_flatten_of_mem h hmem, by decide⟩
  have := (unspaced_shownLines_sublist line).subset hall
  simp [unspaced] at this

/-- No character but the space becomes more frequent. -/
theorem count_shownLines_le {c : Char} (hc : c ≠ ' ') (line : List Char) :
    (shownLines line).flatten.count c ≤ line.count c := by
  have hcount : ∀ s : List Char, (unspaced s).count c = s.count c :=
    fun s ↦ List.count_filter (by simpa using hc)
  have := (unspaced_shownLines_sublist line).count_le c
  rw [hcount, hcount] at this
  exact this.trans (List.filter_sublist.count_le c)

/-! ### Lines that fit and lines that do not -/

theorem take_stripEnd_eq_self {c : Char} {rest : List Char} (hc : isBlank c = false)
    (hstrip : strip (c :: rest) = c :: rest) (n : Nat) :
    (c :: rest).take (max n (stripEnd (c :: rest)).length) = c :: rest := by
  have hend : stripEnd (c :: rest) = c :: rest := by
    rwa [strip, List.dropWhile_cons_of_neg (by simp [hc])] at hstrip
  rw [hend, List.take_of_length_le (Nat.le_max_right _ _)]

section

variable {c : Char} {rest : List Char}

/-- **A line that fits is shown as it is.** -/
theorem shownLines_eq_singleton (hc : isBlank c = false)
    (hstrip : strip (c :: rest) = c :: rest) (htab : '\t' ∉ c :: rest)
    (h : cells (c :: rest) ≤ consoleWidth) :
    shownLines (c :: rest) = [c :: rest] := by
  rw [shownLines, untabbed_eq_self htab, breakLine_eq_singleton _ hc h, List.map_singleton,
    shownPiece_eq, take_stripEnd_eq_self hc hstrip, fitted, fitted, if_pos h, if_pos h]

/-- **A line that is too wide is shown in pieces of which none is all of it.** -/
theorem isShort_of_mem_shownLines (hc : isBlank c = false) (hjoiner : c ≠ joiner)
    (hmark : c ≠ pictureMark) (hstrip : strip (c :: rest) = c :: rest) (htab : '\t' ∉ c :: rest)
    (h : consoleWidth < cells (c :: rest)) {shown : List Char}
    (hshown : shown ∈ shownLines (c :: rest)) :
    ∃ kept n, shown = kept ++ blanks n ∧ kept.Sublist (c :: rest) ∧
      kept.length < (c :: rest).length := by
  rw [shownLines, untabbed_eq_self htab] at hshown
  obtain ⟨piece, hpiece, rfl⟩ := List.mem_map.1 hshown
  have hsub : piece.Sublist (c :: rest) :=
    (List.sublist_flatten_of_mem hpiece).trans (flatten_breakLine_sublist _ _ _)
  -- A piece is shorter than the line, unless it is all of it and is cut off at the width.
  by_cases hwhole : piece = c :: rest
  · have hproper : IsProperCut (c :: rest) (shownPiece (c :: rest)) := by
      rw [shownPiece_eq, take_stripEnd_eq_self hc hstrip, fitted.eq_1 _ (c :: rest),
        if_neg (Nat.not_le.2 h)]
      exact (isProperCut_crop hjoiner hmark h).trans (isCut_fitted _ _)
    obtain ⟨kept, n, heq, hkept, hlength⟩ := hproper
    exact ⟨kept, n, hwhole ▸ heq, hkept.sublist, hlength⟩
  · obtain ⟨kept, n, heq, hkept⟩ := isCut_shownPiece piece
    refine ⟨kept, n, heq, hkept.sublist.trans hsub, hkept.length_le.trans_lt ?_⟩
    exact Nat.lt_of_le_of_ne hsub.length_le fun hlength ↦ hwhole (hsub.eq_of_length hlength)

/-- Characters of two cells: forty of them fill the console. -/
example : shownLines (List.replicate 41 '界') = [List.replicate 40 '界', ['界']] := by
  decide +kernel

end

/-! ### Texts -/

theorem fields_unlines {ls : List (List Char)} (h : ∀ l ∈ ls, '\n' ∉ l) :
    fields (· == '\n') (unlines ls) = ls ++ [[]] := by
  induction ls with
  | nil => rfl
  | cons l rest ih =>
    rw [unlines_cons, fields_append (by decide), fields_of_not_mem (h l List.mem_cons_self),
      ih fun m hm ↦ h m (List.mem_cons_of_mem _ hm)]
    rfl

theorem intercalate_concat_nil (ls : List (List Char)) :
    ['\n'].intercalate (ls ++ [[]]) = unlines ls := by
  induction ls with
  | nil => rfl
  | cons l rest ih =>
    obtain ⟨next, more, hrest⟩ := List.exists_cons_of_ne_nil
      (List.append_ne_nil_of_right_ne_nil rest (List.cons_ne_nil [] []))
    rw [List.cons_append, hrest, List.intercalate_cons_cons, ← hrest, ih, unlines_cons]
    simp

theorem shownLines_nil : shownLines [] = [[]] := by
  decide

/-- The lines that a text without styles is shown as. -/
theorem wrap_bare (s : List Char) :
    (wrap .asIs .fold consoleWidth (bare s)).map (Styled.limit consoleWidth) =
      (fields (· == '\n') s).flatMap shownLines := by
  have hline : ∀ line,
      (((expandTabs (bare line)).divide 0
          (breakLine .fold consoleWidth (expandTabs (bare line)).content)).map fun piece ↦
        place .asIs .fold consoleWidth (trimEnd consoleWidth piece)).map
          (Styled.limit consoleWidth) = shownLines line := by
    intro line
    rw [(untabbed_spec line).1, Styled.divide_bare]
    simp [shownLines, Function.comp_def]
    rfl
  rw [wrap, Styled.divide_bare, List.map_flatMap, List.flatMap_map]
  exact List.flatMap_congr fun line _ ↦ hline line

/-- **A text is shown line by line.** -/
theorem printed_unlines {ls : List (List Char)} (h : ∀ l ∈ ls, '\n' ∉ l) :
    printed (bare (unlines ls)) = unlines (ls.flatMap shownLines) := by
  rw [printed, wrap_bare, fields_unlines h, List.flatMap_append, List.flatMap_singleton,
    shownLines_nil, intercalate_concat_nil]

end SocksRouter.Console
