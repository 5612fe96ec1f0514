import Mathlib.Data.List.SplitBy
import SocksRouter.Console.Emoji
import SocksRouter.Proofs.Text.Fields
import SocksRouter.Proofs.Text.Lines

/-!
# What pictures leave of a text

A text whose names are looked up comes apart into characters that stay and names between colons that
give way to what they are shown as (`Replaced`). No name is shown with a blank, a colon or a comma,
whatever the table has for it, since these are what the table itself is cut at. So no line is broken
by a picture and no field of a line is cut by one, and a text either stays as it is or loses a colon
(`withPictures_eq_self_or`).
-/

namespace SocksRouter.Console

open Text

/-! ### The table -/

/-- A word holds no blank. -/
theorem isBlank_eq_false_of_mem_words {s word : List Char} (h : word ∈ words s) :
    ∀ c ∈ word, isBlank c = false := by
  obtain ⟨hsplit, hink⟩ := List.mem_filter.1 h
  obtain ⟨d, hd, hdink⟩ : ∃ d ∈ word, isBlank d = false := by simpa using hink
  have hchain : (word.map isBlank).IsChain (· = ·) := by
    rw [List.isChain_map]
    simpa using List.isChain_of_mem_splitBy hsplit
  have hsame := (List.isChain_iff_pairwise.1 hchain).forall
  intro c hc
  by_contra hblank
  have hne : isBlank c ≠ isBlank d := fun heq ↦ hblank (heq.trans hdink)
  exact hne (hsame (List.mem_map_of_mem hc) (List.mem_map_of_mem hd) hne)

/-- A character that may stand in a picture. -/
structure IsPictureChar (c : Char) : Prop where
  /-- It is no blank. -/
  isBlank_eq : isBlank c = false
  /-- It ends no name. -/
  ne_colon : c ≠ ':'
  /-- It ends no field of a line. -/
  ne_comma : c ≠ ','

theorem not_isPictureChar_of_isBlank {c : Char} (h : isBlank c = true) : ¬IsPictureChar c := by
  intro hc
  rw [hc.isBlank_eq] at h
  contradiction

theorem isPictureChar_of_emojiOf? {entry name picture : List Char}
    (hentry : ∀ c ∈ entry, isBlank c = false) (h : emojiOf? entry = some (name, picture)) :
    ∀ c ∈ picture, IsPictureChar c := by
  rw [emojiOf?] at h
  split at h
  · rename_i first second hfields
    obtain ⟨-, rfl⟩ := Prod.mk.inj (Option.some.inj h)
    intro c hc
    obtain ⟨hmem, hsep⟩ :=
      not_separator_of_mem_fields (hfields ▸ List.mem_cons_of_mem _ List.mem_cons_self) c hc
    simp only [Bool.or_eq_false_iff, decide_eq_false_iff_not] at hsep
    exact ⟨hentry c hmem, hsep.1, hsep.2⟩
  · contradiction

theorem isPictureChar_of_picture? {name picture : List Char} (h : picture? name = some picture) :
    ∀ c ∈ picture, IsPictureChar c := by
  obtain ⟨before, after, hentries, -⟩ := List.lookup_eq_some_iff.1 h
  have hmem : (lower name, picture) ∈ emojiEntries := by simp [hentries]
  obtain ⟨entry, hentry, heq⟩ := List.mem_filterMap.1 hmem
  exact isPictureChar_of_emojiOf? (isBlank_eq_false_of_mem_words hentry) heq

/-- **What a name is shown as holds no blank, no colon and no comma.** -/
theorem isPictureChar_of_shownName {name shown : List Char}
    (h : shownName picture? name = some shown) : ∀ c ∈ shown, IsPictureChar c := by
  rw [shownName] at h
  split at h
  · rename_i ending mark hfound
    have hmark : mark = '\uFE0F' ∨ mark = '\uFE0E' := by
      have := List.mem_of_find?_eq_some hfound
      simp only [variants, List.mem_cons, Prod.mk.injEq, List.not_mem_nil, or_false] at this
      exact this.imp And.right And.right
    obtain ⟨picture, hpicture, rfl⟩ := Option.map_eq_some_iff.1 h
    refine List.forall_mem_append.2
      ⟨isPictureChar_of_picture? hpicture, List.forall_mem_singleton.2 ?_⟩
    rcases hmark with rfl | rfl <;> exact ⟨by decide, by decide, by decide⟩
  · exact isPictureChar_of_picture? h

/-! ### Texts with pictures in them -/

/-- `t` is `s` with some of the names in it replaced by what they are shown as. -/
inductive Replaced (find : List Char → Option (List Char)) : List Char → List Char → Prop
  /-- There is nothing to replace. -/
  | nil : Replaced find [] []
  /-- A character stays. -/
  | keep {s t : List Char} (c : Char) (h : Replaced find s t) : Replaced find (c :: s) (c :: t)
  /-- A name gives way to what it is shown as. -/
  | give {s t name shown : List Char} (hname : shownName find name = some shown)
    (h : Replaced find s t) : Replaced find (':' :: name ++ ':' :: s) (shown ++ t)

namespace Replaced

variable {find : List Char → Option (List Char)} {s t : List Char}

theorem keep_append (l : List Char) (h : Replaced find s t) : Replaced find (l ++ s) (l ++ t) := by
  induction l with
  | nil => exact h
  | cons c l ih => exact ih.keep c

/-- A character that is in no picture does not become more frequent. -/
theorem count_le {c : Char} (hc : ∀ name shown, shownName find name = some shown → c ∉ shown)
    (h : Replaced find s t) : t.count c ≤ s.count c := by
  induction h with
  | nil => exact Nat.le_refl _
  | keep d h ih =>
    rw [List.count_cons, List.count_cons]
    omega
  | @give s t name shown hname h ih =>
    rw [List.count_append, List.count_eq_zero.2 (hc _ _ hname), List.count_append, List.count_cons,
      List.count_cons]
    omega

/-- Where a name gives way its colons are lost. -/
theorem eq_or (hfind : ∀ name shown, shownName find name = some shown → ':' ∉ shown)
    (h : Replaced find s t) : t = s ∨ t.count ':' < s.count ':' := by
  induction h with
  | nil => exact .inl rfl
  | keep d h ih =>
    refine ih.imp (congrArg _) fun hlt ↦ ?_
    rw [List.count_cons, List.count_cons]
    omega
  | @give s t name shown hname h ih =>
    have := h.count_le hfind
    rw [List.count_append, List.count_eq_zero.2 (hfind _ _ hname), List.count_append,
      List.count_cons_self, List.count_cons_self]
    exact .inr (by omega)

end Replaced

/-- A name that is being read as it stands in the text. -/
def openName (name : Option (List Char)) : List Char :=
  (name.map fun read ↦ ':' :: read.reverse).getD []

/-- **Looking names up replaces some of them.** -/
theorem replaced_replaceNames (find : List Char → Option (List Char)) (name : Option (List Char))
    (s : List Char) : Replaced find (openName name ++ s) (replaceNames find name s) := by
  fun_induction replaceNames find name s with
  | case1 => exact .nil
  | case2 read => simpa [openName] using Replaced.nil.keep_append (':' :: read.reverse)
  | case3 rest ih => simpa [openName] using ih
  | case4 c rest hc ih => exact ih.keep c
  | case5 rest read ih =>
    rcases hshown : shownName find read.reverse with - | shown
    · simpa [openName, hshown] using (ih.keep ':').keep_append (':' :: read.reverse)
    · simpa [openName, hshown] using ih.give hshown
  | case6 c rest read hc hblank ih =>
    simpa [openName] using (ih.keep c).keep_append (':' :: read.reverse)
  | case7 c rest read hc hblank ih => simpa [openName] using ih

/-! ### Pictures in a text -/

theorem replaced_withPictures (s : List Char) : Replaced picture? s (withPictures s) :=
  replaced_replaceNames picture? none s

/-- Pictures do not make a character more frequent that is in none of them. -/
theorem count_withPictures_le {c : Char} (hc : ¬IsPictureChar c) (s : List Char) :
    (withPictures s).count c ≤ s.count c :=
  (replaced_withPictures s).count_le fun _ _ hshown hmem ↦
    hc (isPictureChar_of_shownName hshown c hmem)

/-- **A text stays as it is or loses a colon.** -/
theorem withPictures_eq_self_or (s : List Char) :
    withPictures s = s ∨ (withPictures s).count ':' < s.count ':' :=
  (replaced_withPictures s).eq_or fun _ _ hshown hmem ↦
    (isPictureChar_of_shownName hshown ':' hmem).ne_colon rfl

/-- A blank ends a name that is being read, so names are looked up apart on its two sides. -/
theorem replaceNames_append_blank (find : List Char → Option (List Char))
    (name : Option (List Char)) (s : List Char) {b : Char} (hb : isBlank b = true) (t : List Char) :
    replaceNames find name (s ++ b :: t) =
      replaceNames find name s ++ b :: replaceNames find none t := by
  have hcolon : b ≠ ':' := by
    rintro rfl
    exact absurd hb (by decide)
  fun_induction replaceNames find name s with
  | case1 => simp [replaceNames, hcolon]
  | case2 read => simp [replaceNames, hcolon, hb]
  | case3 rest ih => simpa [replaceNames] using ih
  | case4 c rest hc ih => simpa [replaceNames, hc] using ih
  | case5 rest read ih => simpa [replaceNames] using ih
  | case6 c rest read hc hblank ih => simpa [replaceNames, hc, hblank] using ih
  | case7 c rest read hc hblank ih => simpa [replaceNames, hc, hblank] using ih

/-- **Names are looked up line by line.** -/
theorem withPictures_unlines (ls : List (List Char)) :
    withPictures (unlines ls) = unlines (ls.map withPictures) := by
  induction ls with
  | nil => rfl
  | cons l rest ih =>
    rw [unlines_cons, List.map_cons, unlines_cons, ← ih]
    exact replaceNames_append_blank picture? none l (by decide) (unlines rest)

end SocksRouter.Console
