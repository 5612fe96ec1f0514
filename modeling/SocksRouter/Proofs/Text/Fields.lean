import Mathlib.Data.List.Basic
import Mathlib.Data.List.TakeWhile
import SocksRouter.Text.Blank
import SocksRouter.Text.Fields

/-!
# What cutting and trimming a text keep

The fields of a text are its pieces between separators (`fields_eq_splitOnP`), so the library's
facts about pieces hold of them; with a single separator, fields and text determine each other
(`fields_eq_iff`). Cutting at the first or the last separator and looking for a stretch are stated
by the way the text is put together (`cutFirst_eq_some_iff`, `cutLast_eq_some_iff`,
`occursIn_iff_isInfix`).

Trimming keeps a stretch of the text (`strip_isInfix`) and its result is trimmed; on a text that is
trimmed it does nothing (`strip_eq_self`), and what stands on the two sides of a character that is
not blank is trimmed apart (`strip_append`). For any class of characters at the ends, trimming takes
away what a text has of them around it, and no more (`stripOf_append`, `exists_eq_append_stripOf`).
-/

namespace SocksRouter.Text

/-! ### Fields -/

theorem fields_eq_splitOnP (isSeparator : Char → Bool) (s : List Char) :
    fields isSeparator s = s.splitOnP isSeparator := by
  induction s with
  | nil => rw [fields, List.splitOnP_nil]
  | cons c rest ih =>
    rw [List.splitOnP_cons_eq_if_modifyHead, fields, ih]
    split
    · rfl
    · obtain ⟨field, more, h⟩ := List.exists_cons_of_ne_nil (List.splitOnP_ne_nil isSeparator rest)
      rw [h, List.modifyHead_cons]

theorem fields_eq_splitOn (separator : Char) (s : List Char) :
    fields (· == separator) s = s.splitOn separator := by
  rw [fields_eq_splitOnP, List.splitOn_eq_splitOnP]

/-- A text is cut at a separator wherever it stands. -/
theorem fields_append {isSeparator : Char → Bool} {separator : Char}
    (h : isSeparator separator = true) (s t : List Char) :
    fields isSeparator (s ++ separator :: t) = fields isSeparator s ++ fields isSeparator t := by
  simp only [fields_eq_splitOnP, List.splitOnP_append_cons s t h]

/-- A field holds no separator, and nothing that the text does not hold. -/
theorem not_separator_of_mem_fields {isSeparator : Char → Bool} {s field : List Char}
    (h : field ∈ fields isSeparator s) : ∀ c ∈ field, c ∈ s ∧ isSeparator c = false := by
  induction s generalizing field with
  | nil =>
    rw [fields, List.mem_singleton] at h
    subst h
    simp
  | cons d rest ih =>
    rw [fields] at h
    split at h
    · rcases List.mem_cons.1 h with rfl | h
      · simp
      · exact fun c hc ↦ ⟨List.mem_cons_of_mem _ (ih h c hc).1, (ih h c hc).2⟩
    · rename_i hd
      have hne := fields_ne_nil isSeparator rest
      split at h
      · contradiction
      · rename_i first more hfields
        rw [hfields] at ih
        rcases List.mem_cons.1 h with rfl | h
        · intro c hc
          rcases List.mem_cons.1 hc with rfl | hc
          · exact ⟨List.mem_cons_self, by simpa using hd⟩
          · have := ih List.mem_cons_self c hc
            exact ⟨List.mem_cons_of_mem _ this.1, this.2⟩
        · intro c hc
          have := ih (List.mem_cons_of_mem _ h) c hc
          exact ⟨List.mem_cons_of_mem _ this.1, this.2⟩

/-- The fields of a text are what the text has besides separators. -/
theorem flatten_fields (isSeparator : Char → Bool) (s : List Char) :
    (fields isSeparator s).flatten = s.filter fun c ↦ !isSeparator c := by
  induction s with
  | nil => rfl
  | cons c rest ih =>
    rw [fields]
    split
    · rename_i hc
      rw [List.filter_cons_of_neg (by simp [hc]), ← ih]
      rfl
    · rename_i hc
      rw [List.filter_cons_of_pos (by simpa using hc), ← ih]
      split
      · rename_i hfields
        exact absurd hfields (fields_ne_nil _ _)
      · rename_i hfields
        rw [hfields]
        rfl

/-- **Fields and text determine each other**: the fields joined by the separator are the text, and
any pieces without the separator that join to the text are its fields. -/
theorem fields_eq_iff {separator : Char} {s : List Char} {pieces : List (List Char)} :
    fields (· == separator) s = pieces ↔
      pieces ≠ [] ∧ (∀ piece ∈ pieces, separator ∉ piece) ∧
        [separator].intercalate pieces = s := by
  constructor
  · rintro rfl
    refine ⟨fields_ne_nil _ _, fun piece h hmem ↦ ?_, ?_⟩
    · simpa using (not_separator_of_mem_fields h separator hmem).2
    · rw [fields_eq_splitOn, List.intercalate_splitOn]
  · rintro ⟨hne, hpieces, rfl⟩
    rw [fields_eq_splitOn, List.splitOn_intercalate separator hpieces hne]

/-- A text without separators is its only field. -/
theorem fields_of_not_mem {separator : Char} {s : List Char} (h : separator ∉ s) :
    fields (· == separator) s = [s] :=
  fields_eq_iff.2 ⟨by simp, by simpa using h, by simp⟩

/-! ### The first and the last separator -/

/-- A text is cut at a separator with no other in front of it. -/
theorem cutFirst_eq_some_iff {separator : Char} {s before after : List Char} :
    cutFirst separator s = some (before, after) ↔
      s = before ++ separator :: after ∧ separator ∉ before := by
  induction s generalizing before after with
  | nil => simp [cutFirst]
  | cons c rest ih =>
    rw [cutFirst]
    split
    · rename_i hc
      subst hc
      cases before <;> simp +contextual [eq_comm]
    · rename_i hc
      cases before with
      | nil => simp [hc]
      | cons b more =>
        simp only [Option.map_eq_some_iff, Prod.exists, Prod.mk.injEq, List.cons.injEq,
          List.cons_append, List.mem_cons, not_or, ih]
        constructor
        · rintro ⟨x, y, ⟨rfl, hx⟩, ⟨rfl, rfl⟩, rfl⟩
          exact ⟨⟨rfl, rfl⟩, Ne.symm hc, hx⟩
        · rintro ⟨⟨rfl, rfl⟩, -, hmore⟩
          exact ⟨more, after, ⟨rfl, hmore⟩, ⟨rfl, rfl⟩, rfl⟩

/-- A text is cut at a separator with no other behind it. -/
theorem cutLast_eq_some_iff {separator : Char} {s before after : List Char} :
    cutLast separator s = some (before, after) ↔
      s = before ++ separator :: after ∧ separator ∉ after := by
  simp only [cutLast, Option.map_eq_some_iff, Prod.exists, cutFirst_eq_some_iff, Prod.mk.injEq]
  constructor
  · rintro ⟨first, last, ⟨hs, hfirst⟩, rfl, rfl⟩
    refine ⟨?_, mt List.mem_reverse.1 hfirst⟩
    rw [← List.reverse_reverse s, hs]
    simp
  · rintro ⟨rfl, hafter⟩
    exact ⟨after.reverse, before.reverse, ⟨by simp, mt List.mem_reverse.1 hafter⟩, by simp, by simp⟩

/-! ### Stretches -/

theorem occursIn_iff_isInfix {part s : List Char} : occursIn part s = true ↔ part <:+: s := by
  induction s with
  | nil => simp [occursIn]
  | cons c rest ih =>
    rw [occursIn, Bool.or_eq_true, List.isPrefixOf_iff_prefix, ih, List.infix_cons_iff]

/-! ### Trimming of any class -/

section StripOf

variable {isEdge : Char → Bool}

theorem strip_eq_stripOf (s : List Char) : strip s = stripOf isBlank s := rfl

theorem dropWhile_append_of_head? {left s : List Char} (hleft : ∀ c ∈ left, isEdge c = true)
    (hs : ∀ c ∈ s.head?, isEdge c = false) : (left ++ s).dropWhile isEdge = s := by
  rw [List.dropWhile_append_of_pos hleft]
  cases s with
  | nil => rfl
  | cons c rest => exact List.dropWhile_cons_of_neg (by simp [hs c rfl])

/-- **What stands around a text is taken away**, down to the first and the last character of another
class. -/
theorem stripOf_append {left s right : List Char} (hleft : ∀ c ∈ left, isEdge c = true)
    (hright : ∀ c ∈ right, isEdge c = true) (hne : s ≠ [])
    (hfirst : ∀ c ∈ s.head?, isEdge c = false) (hlast : ∀ c ∈ s.getLast?, isEdge c = false) :
    stripOf isEdge (left ++ (s ++ right)) = s := by
  have hdrop : (left ++ (s ++ right)).dropWhile isEdge = s ++ right := by
    refine dropWhile_append_of_head? hleft fun c hc ↦ hfirst c ?_
    rwa [List.head?_append_of_ne_nil s hne] at hc
  have hreverse : (s ++ right).reverse.dropWhile isEdge = s.reverse := by
    rw [List.reverse_append]
    refine dropWhile_append_of_head? (fun c hc ↦ hright c (List.mem_reverse.1 hc)) fun c hc ↦ ?_
    exact hlast c (by rwa [List.head?_reverse] at hc)
  rw [stripOf, hdrop, hreverse, List.reverse_reverse]

/-- Trimming takes away nothing else than the characters of the class at the two ends. -/
theorem exists_eq_append_stripOf (isEdge : Char → Bool) (s : List Char) :
    ∃ left right, s = left ++ (stripOf isEdge s ++ right) ∧ (∀ c ∈ left, isEdge c = true) ∧
      ∀ c ∈ right, isEdge c = true := by
  let rest := (s.dropWhile isEdge).reverse
  refine ⟨s.takeWhile isEdge, (rest.takeWhile isEdge).reverse, ?_,
    fun c hc ↦ List.mem_takeWhile_imp hc,
    fun c hc ↦ List.mem_takeWhile_imp (List.mem_reverse.1 hc)⟩
  rw [stripOf, ← List.reverse_append, List.takeWhile_append_dropWhile, List.reverse_reverse,
    List.takeWhile_append_dropWhile]

/-- What is left neither starts nor ends with a character of the class. -/
theorem not_isEdge_stripOf (isEdge : Char → Bool) (s : List Char) :
    (∀ c ∈ (stripOf isEdge s).head?, isEdge c = false) ∧
      ∀ c ∈ (stripOf isEdge s).getLast?, isEdge c = false := by
  have hnot : ∀ (t : List Char), ∀ c ∈ (t.dropWhile isEdge).head?, isEdge c = false := by
    intro t c hc
    have := List.head?_dropWhile_not isEdge t
    rw [Option.mem_def.1 hc] at this
    simpa using this
  have hstretch : stripOf isEdge s <+: s.dropWhile isEdge := by
    rw [stripOf, ← List.reverse_suffix, List.reverse_reverse]
    exact List.dropWhile_suffix _
  refine ⟨fun c hc ↦ hnot s c ?_, fun c hc ↦ ?_⟩
  · exact List.singleton_prefix_iff_head?_eq_some.1
      ((List.singleton_prefix_iff_head?_eq_some.2 hc).trans hstretch)
  · rw [stripOf, List.getLast?_reverse] at hc
    exact hnot _ c hc

end StripOf

/-! ### Trimming -/

theorem stripEnd_isPrefix (s : List Char) : stripEnd s <+: s := by
  rw [stripEnd, ← List.reverse_suffix, List.reverse_reverse]
  exact List.dropWhile_suffix _

/-- Trimming keeps a stretch of the text. -/
theorem strip_isInfix (s : List Char) : strip s <:+: s :=
  (stripEnd_isPrefix _).isInfix.trans (List.dropWhile_suffix _).isInfix

/-- What trimming leaves is trimmed. -/
theorem isTrimmed_strip (s : List Char) : IsTrimmed (strip s) :=
  not_isEdge_stripOf isBlank s

/-- A trimmed text stays as it is. -/
theorem strip_eq_self {s : List Char} (h : IsTrimmed s) : strip s = s := by
  cases s with
  | nil => rfl
  | cons c rest =>
    have hstrip : stripOf isBlank ([] ++ ((c :: rest) ++ [])) = c :: rest :=
      stripOf_append (by simp) (by simp) (by simp) h.1 h.2
    rwa [List.nil_append, List.append_nil] at hstrip

theorem stripEnd_append {s : List Char} {c : Char} (h : isBlank c = false) (t : List Char) :
    stripEnd (s ++ c :: t) = s ++ c :: stripEnd t := by
  have hc : (c :: s.reverse).dropWhile isBlank = c :: s.reverse :=
    List.dropWhile_cons_of_neg (by simp [h])
  have hreverse : (s ++ c :: t).reverse = t.reverse ++ (c :: s.reverse) := by simp
  rw [stripEnd, stripEnd, hreverse, List.dropWhile_append, hc]
  split
  · rename_i hblank
    simp [List.isEmpty_iff.1 hblank]
  · simp

/-- Trimming works on the two sides of a character that is not blank. -/
theorem strip_append {s : List Char} {c : Char} (h : isBlank c = false) (t : List Char) :
    strip (s ++ c :: t) = s.dropWhile isBlank ++ c :: stripEnd t := by
  have hdrop : (s ++ c :: t).dropWhile isBlank = s.dropWhile isBlank ++ c :: t := by
    rw [List.dropWhile_append]
    split
    · rename_i hblank
      rw [List.isEmpty_iff.1 hblank, List.nil_append, List.dropWhile_cons_of_neg (by simp [h])]
    · rfl
  rw [strip, hdrop, stripEnd_append h]

theorem strip_eq_nil_iff {s : List Char} : strip s = [] ↔ ∀ c ∈ s, isBlank c = true := by
  constructor
  · intro h c hc
    by_contra hblank
    obtain ⟨before, after, rfl⟩ := List.append_of_mem hc
    rw [strip_append (by simpa using hblank)] at h
    simp at h
  · intro h
    rw [strip, List.dropWhile_eq_nil_iff.2 h]
    rfl

/-- Blanks behind a text do not outlast trimming. -/
theorem strip_append_of_blank (s : List Char) {t : List Char} (ht : ∀ c ∈ t, isBlank c = true) :
    strip (s ++ t) = strip s := by
  by_cases hs : strip s = []
  · rw [hs, strip_eq_nil_iff]
    exact List.forall_mem_append.2 ⟨strip_eq_nil_iff.1 hs, ht⟩
  · obtain ⟨left, right, heq, hleft, hright⟩ := exists_eq_append_stripOf isBlank s
    rw [← strip_eq_stripOf] at heq
    have htrimmed := isTrimmed_strip s
    conv_lhs => rw [heq, List.append_assoc, List.append_assoc, strip_eq_stripOf]
    exact stripOf_append hleft (List.forall_mem_append.2 ⟨hright, ht⟩) hs htrimmed.1 htrimmed.2

end SocksRouter.Text
