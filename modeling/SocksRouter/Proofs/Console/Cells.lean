import SocksRouter.Console.Cells
import SocksRouter.Text.Blank

/-!
# What a text takes on the console, and what is left of it

A text takes at least the cells of its beginning, and where the first of two parts ends in a blank,
the whole takes at least the cells of both (`cells_add_le_cells_append`). It need not take as many:
a picture mark in front of the second part may look back past blanks that take no cell.

Cutting a text to a width leaves a beginning of it and blanks (`IsCut`), and a proper beginning if
the text is too wide (`isProperCut_crop`). This rests on the glyphs: together they are the text and
take its cells, as long as the text starts with a character that is drawn on its own
(`totalWidth_glyphs`).
-/

namespace SocksRouter.Console

open Text

/-! ### Cells of a text in two parts -/

theorem isBlank_joiner : isBlank joiner = false := by decide

/-- What a character takes, whatever stands behind it. Only a joiner takes in the next one. -/
theorem exists_cellsFrom_cons (joined : Bool) (base : Option Char) (c : Char) :
    ∃ n joined' base', (∀ rest, cellsFrom joined base (c :: rest) =
      n + cellsFrom joined' base' rest) ∧ (c ≠ joiner → joined' = false) := by
  by_cases hjoined : joined = true
  · exact ⟨0, false, base, by simp [cellsFrom, hjoined], fun _ ↦ rfl⟩
  by_cases hjoiner : c = joiner
  · exact ⟨0, true, base, by simp [cellsFrom, hjoined, hjoiner], fun h ↦ absurd hjoiner h⟩
  by_cases hmark : c = pictureMark
  · exact ⟨(base.any widens).toNat, false, none,
      fun rest ↦ by rw [cellsFrom, if_neg hjoined, if_neg hjoiner, if_pos hmark], fun _ ↦ rfl⟩
  by_cases hzero : charCells c = 0
  · exact ⟨0, false, base, by simp [cellsFrom, hjoined, hjoiner, hmark, hzero], fun _ ↦ rfl⟩
  · exact ⟨charCells c, false, some c, by simp [cellsFrom, hjoined, hjoiner, hmark, hzero],
      fun _ ↦ rfl⟩

/-- The cells of a text in two parts. Behind a first part that does not end in a joiner the second
one starts afresh, up to the character that a picture mark in it would change. -/
theorem exists_cellsFrom_append (joined : Bool) (base : Option Char) (s t : List Char) :
    ∃ joined' base', cellsFrom joined base (s ++ t) =
        cellsFrom joined base s + cellsFrom joined' base' t ∧
      ((s = [] → joined = false) → (∀ c ∈ s.getLast?, c ≠ joiner) → joined' = false) := by
  -- What the last character leaves behind decides how the second part starts.
  induction s generalizing joined base with
  | nil => exact ⟨joined, base, by simp [cellsFrom], fun h _ ↦ h rfl⟩
  | cons c rest ih =>
    obtain ⟨n, joined₁, base₁, hcons, hfirst⟩ := exists_cellsFrom_cons joined base c
    obtain ⟨joined', base', heq, hfresh⟩ := ih joined₁ base₁
    refine ⟨joined', base', by rw [List.cons_append, hcons, hcons, heq, Nat.add_assoc],
      fun _ hlast ↦ ?_⟩
    cases rest with
    | nil => exact hfresh (fun _ ↦ hfirst (hlast c rfl)) (by simp)
    | cons d more =>
      rw [List.getLast?_cons_cons] at hlast
      exact hfresh (fun h ↦ absurd h (List.cons_ne_nil _ _)) hlast

/-- A character in front of a text that could become a picture takes nothing from it. -/
theorem cellsFrom_none_le (joined : Bool) (base : Option Char) (s : List Char) :
    cellsFrom joined none s ≤ cellsFrom joined base s := by
  fun_induction cellsFrom joined base s with
  | case1 => simp [cellsFrom]
  | case2 base c rest ih => simpa [cellsFrom] using ih
  | case3 joined base rest hjoined ih => simpa [cellsFrom, hjoined] using ih
  | case4 joined base rest hjoined hjoiner ih => simp [cellsFrom, hjoined, hjoiner]
  | case5 joined base c rest hjoined hjoiner hmark hzero ih =>
    simpa [cellsFrom, hjoined, hjoiner, hmark, hzero] using ih
  | case6 joined base c rest hjoined hjoiner hmark hzero ih =>
    simp [cellsFrom, hjoined, hjoiner, hmark, hzero]

/-- A character that no picture mark changes might as well not be there. -/
theorem cellsFrom_eq_none {base : Option Char} (h : base.any widens = false) (joined : Bool)
    (s : List Char) : cellsFrom joined base s = cellsFrom joined none s := by
  fun_induction cellsFrom joined base s with
  | case1 => simp [cellsFrom]
  | case2 base c rest ih => simpa [cellsFrom] using ih h
  | case3 joined base rest hjoined ih => simpa [cellsFrom, hjoined] using ih h
  | case4 joined base rest hjoined hjoiner ih => simp [cellsFrom, hjoined, hjoiner, h]
  | case5 joined base c rest hjoined hjoiner hmark hzero ih =>
    simpa [cellsFrom, hjoined, hjoiner, hmark, hzero] using ih h
  | case6 joined base c rest hjoined hjoiner hmark hzero ih =>
    simp [cellsFrom, hjoined, hjoiner, hmark, hzero]

theorem cells_le_cells_append (s t : List Char) : cells s ≤ cells (s ++ t) := by
  obtain ⟨joined, base, heq, -⟩ := exists_cellsFrom_append false none s t
  rw [cells, cells, heq]
  exact Nat.le_add_right _ _

/-- **A blank keeps what stands behind it apart**, so the whole takes no fewer cells than its
parts. -/
theorem cells_add_le_cells_append {s : List Char} (hs : ∀ c ∈ s.getLast?, isBlank c = true)
    (t : List Char) : cells s + cells t ≤ cells (s ++ t) := by
  obtain ⟨joined, base, heq, hfresh⟩ := exists_cellsFrom_append false none s t
  have hlast : ∀ c ∈ s.getLast?, c ≠ joiner := by
    rintro c hc rfl
    exact absurd (hs joiner hc) (by simp [isBlank_joiner])
  obtain rfl := hfresh (fun _ ↦ rfl) hlast
  rw [cells, cells, cells, heq]
  exact Nat.add_le_add_left (cellsFrom_none_le false base t) _

/-! ### Glyphs -/

theorem totalWidth_cons (width : Nat) (widths : List Nat) :
    totalWidth (width :: widths) = width + totalWidth widths := rfl

/-- The glyphs behind an open one are the rest of the text and take its cells. -/
theorem glyphsFrom_spec (glyph : Glyph) (joined : Bool) (base : Option Char) (s : List Char) :
    (glyphsFrom glyph joined base s).flatMap Glyph.content = glyph.content ++ s ∧
      totalWidth ((glyphsFrom glyph joined base s).map Glyph.width) =
        glyph.width + cellsFrom joined base s := by
  fun_induction glyphsFrom glyph joined base s with
  | case1 glyph => simp [cellsFrom, totalWidth]
  | case2 glyph base c rest ih => simpa [cellsFrom, Glyph.add] using ih
  | case3 glyph joined base rest hjoined ih => simpa [cellsFrom, hjoined, Glyph.add] using ih
  | case4 glyph joined base rest hjoined hwidens hjoiner ih =>
    simpa [cellsFrom, hjoined, hjoiner, hwidens, Glyph.add, Nat.add_assoc] using ih
  | case5 glyph joined base rest hjoined hwidens hjoiner ih =>
    -- The glyphs keep looking for a character to change where the cells do not, in vain.
    rw [Bool.not_eq_true] at hwidens
    rw [cellsFrom_eq_none hwidens] at ih
    simpa [cellsFrom, hjoined, hjoiner, hwidens, Glyph.add] using ih
  | case6 glyph joined base c rest hjoined hjoiner hmark hzero ih =>
    simpa [cellsFrom, hjoined, hjoiner, hmark, hzero, Glyph.add] using ih
  | case7 glyph joined base c rest hjoined hjoiner hmark hzero ih =>
    simpa [cellsFrom, hjoined, hjoiner, hmark, hzero, totalWidth_cons] using ih

/-- **The glyphs of a text are the text**, and none of them is empty. -/
theorem flatMap_glyphs (s : List Char) : (glyphs s).flatMap Glyph.content = s := by
  cases s with
  | nil => rfl
  | cons c rest => exact (glyphsFrom_spec _ _ _ _).1

/-- A text that starts with a character drawn on its own takes the cells of its glyphs. -/
theorem totalWidth_glyphs {c : Char} (hjoiner : c ≠ joiner) (hmark : c ≠ pictureMark)
    (rest : List Char) :
    totalWidth ((glyphs (c :: rest)).map Glyph.width) = cells (c :: rest) := by
  rw [glyphs, (glyphsFrom_spec _ _ _ _).2, cells, cellsFrom, if_neg (by simp), if_neg hjoiner,
    if_neg hmark, baseAfter]
  split
  · rename_i hzero
    rw [hzero, Nat.zero_add]
  · rfl

theorem content_ne_nil_of_mem_glyphsFrom {glyph : Glyph} (h : glyph.content ≠ []) (joined : Bool)
    (base : Option Char) (s : List Char) :
    ∀ g ∈ glyphsFrom glyph joined base s, g.content ≠ [] := by
  fun_induction glyphsFrom glyph joined base s with
  | case1 glyph => simpa using h
  | case2 | case3 | case4 | case5 | case6 => simp_all [Glyph.add]
  | case7 glyph joined base c rest hjoined hjoiner hmark hzero ih =>
    exact List.forall_mem_cons.2 ⟨h, ih (by simp)⟩

theorem content_ne_nil_of_mem_glyphs {s : List Char} : ∀ g ∈ glyphs s, g.content ≠ [] := by
  cases s with
  | nil => simp [glyphs]
  | cons c rest => exact content_ne_nil_of_mem_glyphsFrom (by simp) _ _ _

/-! ### What is cut off -/

/-- `t` is a beginning of `s` with blanks behind it. -/
def IsCut (s t : List Char) : Prop :=
  ∃ kept n, t = kept ++ blanks n ∧ kept <+: s

/-- `t` is a proper beginning of `s` with blanks behind it. -/
def IsProperCut (s t : List Char) : Prop :=
  ∃ kept n, t = kept ++ blanks n ∧ kept <+: s ∧ kept.length < s.length

theorem IsCut.refl (s : List Char) : IsCut s s :=
  ⟨s, 0, by simp [blanks], List.prefix_refl s⟩

theorem IsProperCut.isCut {s t : List Char} (h : IsProperCut s t) : IsCut s t :=
  let ⟨kept, n, heq, hkept, _⟩ := h
  ⟨kept, n, heq, hkept⟩

/-- What is cut off twice is cut off once, properly if the first time was. -/
theorem exists_cut_of_append_blanks {kept t : List Char} {n : Nat}
    (h : IsCut (kept ++ blanks n) t) : IsCut kept t := by
  obtain ⟨more, m, rfl, hmore⟩ := h
  rcases List.prefix_or_prefix_of_prefix hmore (List.prefix_append kept (blanks n)) with hle | hle
  · exact ⟨more, m, rfl, hle⟩
  · obtain ⟨fill, rfl⟩ := hle
    have hfill : fill = blanks fill.length :=
      (List.prefix_replicate_iff.1 ((List.prefix_append_right_inj kept).1 hmore)).2
    refine ⟨kept, fill.length + m, ?_, List.prefix_refl kept⟩
    rw [List.append_assoc, hfill, blanks, blanks, List.length_replicate,
      List.replicate_append_replicate, blanks]

theorem IsCut.trans {s t u : List Char} (h : IsCut s t) (h' : IsCut t u) : IsCut s u := by
  obtain ⟨kept, n, rfl, hkept⟩ := h
  obtain ⟨more, m, rfl, hmore⟩ := exists_cut_of_append_blanks h'
  exact ⟨more, m, rfl, hmore.trans hkept⟩

theorem IsProperCut.trans {s t u : List Char} (h : IsProperCut s t) (h' : IsCut t u) :
    IsProperCut s u := by
  obtain ⟨kept, n, rfl, hkept, hlength⟩ := h
  obtain ⟨more, m, rfl, hmore⟩ := exists_cut_of_append_blanks h'
  exact ⟨more, m, rfl, hmore.trans hkept, Nat.lt_of_le_of_lt hmore.length_le hlength⟩

/-- Blanks in the place of all glyphs. -/
theorem isProperCut_blanks {gs : List Glyph} (hne : gs ≠ []) (hgs : ∀ g ∈ gs, g.content ≠ [])
    (n : Nat) : IsProperCut (gs.flatMap Glyph.content) (blanks n) := by
  obtain ⟨g, more, rfl⟩ := List.exists_cons_of_ne_nil hne
  have hpos := List.length_pos_iff.2 (hgs g List.mem_cons_self)
  refine ⟨[], n, rfl, List.nil_prefix, ?_⟩
  rw [List.flatMap_cons, List.length_append, List.length_nil]
  omega

/-- The glyphs that fill a width, properly fewer than all if those take more. -/
theorem cropGlyphs_spec (width : Nat) {gs : List Glyph} (hgs : ∀ g ∈ gs, g.content ≠ []) :
    IsCut (gs.flatMap Glyph.content) (cropGlyphs width gs) ∧
      (width < totalWidth (gs.map Glyph.width) →
        IsProperCut (gs.flatMap Glyph.content) (cropGlyphs width gs)) := by
  fun_induction cropGlyphs width gs with
  | case1 width => exact ⟨.refl [], fun h ↦ absurd h (Nat.not_lt_zero _)⟩
  | case2 glyph rest =>
    have := isProperCut_blanks (List.cons_ne_nil glyph rest) hgs 0
    exact ⟨this.isCut, fun _ ↦ this⟩
  | case3 width glyph rest hwidth hfits ih =>
    obtain ⟨hcut, hmore⟩ := ih fun g hg ↦ hgs g (List.mem_cons_of_mem _ hg)
    refine ⟨?_, fun h ↦ ?_⟩
    · obtain ⟨kept, n, heq, hkept⟩ := hcut
      refine ⟨glyph.content ++ kept, n, by rw [heq, List.append_assoc], ?_⟩
      exact (List.prefix_append_right_inj _).2 hkept
    · rw [List.map_cons, totalWidth_cons] at h
      obtain ⟨kept, n, heq, hkept, hlength⟩ := hmore (by omega)
      refine ⟨glyph.content ++ kept, n, by rw [heq, List.append_assoc], ?_, by simpa using hlength⟩
      exact (List.prefix_append_right_inj _).2 hkept
  | case4 width glyph rest hwidth hfits =>
    have := isProperCut_blanks (List.cons_ne_nil glyph rest) hgs width
    exact ⟨this.isCut, fun _ ↦ this⟩

theorem isCut_crop (width : Nat) (s : List Char) : IsCut s (crop width s) := by
  have := (cropGlyphs_spec width (@content_ne_nil_of_mem_glyphs s)).1
  rwa [flatMap_glyphs] at this

/-- **Cutting a text that is too wide loses some of it**, if it starts with a character drawn on its
own. -/
theorem isProperCut_crop {c : Char} (hjoiner : c ≠ joiner) (hmark : c ≠ pictureMark)
    {rest : List Char} {width : Nat} (h : width < cells (c :: rest)) :
    IsProperCut (c :: rest) (crop width (c :: rest)) := by
  rw [← totalWidth_glyphs hjoiner hmark] at h
  have := (cropGlyphs_spec width content_ne_nil_of_mem_glyphs).2 h
  rwa [flatMap_glyphs] at this

/-! ### Pieces -/

theorem flatten_chopGlyphs_sublist (width : Nat) (piece : List Char) (used : Nat)
    (gs : List Glyph) :
    (chopGlyphs width piece used gs).flatten.Sublist (piece ++ gs.flatMap Glyph.content) := by
  fun_induction chopGlyphs width piece used gs with
  | case1 => exact List.nil_sublist _
  | case2 => simp
  | case3 piece used glyph rest hfits ih => simpa using ih
  | case4 piece used glyph rest hfits ih => simpa using ih

/-- The pieces of a text have nothing that the text has not, in the order it has it. -/
theorem flatten_chop_sublist (width : Nat) (s : List Char) :
    (chop width s).flatten.Sublist s := by
  have := flatten_chopGlyphs_sublist width [] 0 (glyphs s)
  rwa [List.nil_append, flatMap_glyphs] at this

end SocksRouter.Console
