import SocksRouter.Console.Markup
import SocksRouter.Proofs.Console.Emoji
import SocksRouter.Proofs.Console.Wrap
import SocksRouter.Proofs.Rule.Line

/-!
# Plain text on the console

Plain text is listed line by line (`printed_ofPlain_unlines`). Of a line the console first takes
what it can show (`taken`), with pictures in the place of their names and without the characters it
drops, and then shows that as one or more lines (`listed`). Only a line that is shown whole
(`IsShownWhole`) is sure to be listed as it is (`listed_eq_singleton`).

In any case no character becomes more frequent but spaces and those of pictures
(`count_listed_le`), and the console breaks a line only where it is folded
(`not_isLineBreak_of_mem_listed`).
-/

namespace SocksRouter.Console

open Text

/-! ### What the console makes of a line -/

/-- A line as the console takes it: with its pictures, and without what it drops. -/
def taken (line : List Char) : List Char :=
  (withPictures line).filter fun c ↦ !Marked.isDropped c

/-- The lines that a line of plain text is shown as. -/
def listed (line : List Char) : List (List Char) :=
  shownLines (taken line)

theorem filter_unlines {keep : Char → Bool} (h : keep '\n' = true) (ls : List (List Char)) :
    (unlines ls).filter keep = unlines (ls.map (List.filter keep)) := by
  induction ls with
  | nil => rfl
  | cons l rest ih =>
    rw [List.map_cons, unlines_cons, unlines_cons, List.filter_append,
      List.filter_cons_of_pos h, ih]

/-- Plain text is taken line by line. -/
theorem ofPlain_unlines (ls : List (List Char)) :
    ofPlain (unlines ls) = bare (unlines (ls.map taken)) := by
  rw [ofPlain, withPictures_unlines, filter_unlines (by decide), List.map_map]
  rfl

/-- A character that is in no picture does not become more frequent. -/
theorem count_taken_le {c : Char} (hc : ¬IsPictureChar c) (line : List Char) :
    (taken line).count c ≤ line.count c :=
  (List.filter_sublist.count_le c).trans (count_withPictures_le hc line)

theorem count_listed_le {c : Char} (hc : ¬IsPictureChar c) (hspace : c ≠ ' ')
    (line : List Char) : (listed line).flatten.count c ≤ line.count c :=
  (count_shownLines_le hspace _).trans (count_taken_le hc line)

theorem mem_of_mem_listed {c : Char} (hspace : c ≠ ' ') {line shown : List Char}
    (hshown : shown ∈ listed line) (hc : c ∈ shown) : c ∈ taken line := by
  have hpos : 0 < (listed line).flatten.count c :=
    List.count_pos_iff.2 (List.mem_flatten_of_mem hshown hc)
  exact List.count_pos_iff.1 (hpos.trans_le (count_shownLines_le hspace _))

/-- **The console breaks a line where it is folded, and nowhere else.** -/
theorem not_isLineBreak_of_mem_taken {line : List Char} (h : ∀ c ∈ line, isLineBreak c = false) :
    ∀ c ∈ taken line, isLineBreak c = false := by
  intro c hc
  rw [Bool.eq_false_iff]
  intro hbreak
  have hpicture : ¬IsPictureChar c := not_isPictureChar_of_isBlank (isBlank_of_isLineBreak hbreak)
  have hpos := (List.count_pos_iff.2 hc).trans_le (count_taken_le hpicture line)
  exact absurd hbreak (by simp [h c (List.count_pos_iff.1 hpos)])

theorem not_isLineBreak_of_mem_listed {line : List Char} (h : ∀ c ∈ line, isLineBreak c = false) :
    ∀ shown ∈ listed line, ∀ c ∈ shown, isLineBreak c = false := by
  intro shown hshown c hc
  by_cases hspace : c = ' '
  · rw [hspace]
    decide
  · exact not_isLineBreak_of_mem_taken h c (mem_of_mem_listed hspace hshown hc)

/-- **Lines are listed one by one.** -/
theorem printed_ofPlain_unlines {ls : List (List Char)}
    (h : ∀ l ∈ ls, ∀ c ∈ l, isLineBreak c = false) :
    printed (ofPlain (unlines ls)) = unlines (ls.flatMap listed) := by
  rw [ofPlain_unlines, printed_unlines, List.flatMap_map]
  · rfl
  · intro l hl hnewline
    obtain ⟨line, hline, rfl⟩ := List.mem_map.1 hl
    exact absurd (not_isLineBreak_of_mem_taken (h line hline) '\n' hnewline) (by decide)

/-! ### Lines that are shown whole -/

/-- A line that the console shows as it is. -/
structure IsShownWhole (line : List Char) : Prop where
  /-- No name in it stands for a picture. -/
  withPictures_eq : withPictures line = line
  /-- Nothing in it is dropped or filled up. -/
  not_dropped : ∀ c ∈ line, Marked.isDropped c = false ∧ c ≠ '\t'
  /-- It is no wider than the console. -/
  cells_le : cells line ≤ consoleWidth

theorem isShownWhole_iff {line : List Char} :
    IsShownWhole line ↔ withPictures line = line ∧
      (∀ c ∈ line, Marked.isDropped c = false ∧ c ≠ '\t') ∧ cells line ≤ consoleWidth :=
  ⟨fun h ↦ ⟨h.1, h.2, h.3⟩, fun h ↦ ⟨h.1, h.2.1, h.2.2⟩⟩

instance (line : List Char) : Decidable (IsShownWhole line) :=
  have : Decidable (∀ c ∈ line, Marked.isDropped c = false ∧ c ≠ '\t') :=
    List.decidableBAll _ line
  decidable_of_iff' _ isShownWhole_iff

theorem taken_eq_self {line : List Char} (hpictures : withPictures line = line)
    (hdropped : ∀ c ∈ line, Marked.isDropped c = false) : taken line = line := by
  rw [taken, hpictures, List.filter_eq_self]
  simpa using hdropped

/-- **A line that is shown whole is listed as it is**, if it has no blanks at its ends. -/
theorem listed_eq_singleton {c : Char} {rest : List Char} (hc : isBlank c = false)
    (hstrip : strip (c :: rest) = c :: rest) (h : IsShownWhole (c :: rest)) :
    listed (c :: rest) = [c :: rest] := by
  rw [listed, taken_eq_self h.withPictures_eq fun d hd ↦ (h.not_dropped d hd).1]
  exact shownLines_eq_singleton hc hstrip (fun htab ↦ (h.not_dropped '\t' htab).2 rfl) h.cells_le

end SocksRouter.Console
