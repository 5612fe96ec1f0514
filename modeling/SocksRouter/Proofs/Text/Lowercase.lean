import Mathlib.Data.List.Basic
import SocksRouter.Text.Blank
import SocksRouter.Text.Lowercase

/-!
# Lower case, a second time

Lower-casing a text that is in lower case changes nothing (`lower_lower`), whatever its capitals
were and however its final sigmas came about. It also brings no blank and no comma into a text
(`mem_lower`), and leaves a trimmed text trimmed (`isTrimmed_lower`).

The text keeps its length unless it has a capital I with a dot above (`length_lower`), and no
character before the letter a becomes more frequent in it (`count_lower_le`).

All of it comes down to the table of capitals. It has 1431 of them in 181 runs, too many to be
looked up one by one in a proof. So the check goes by runs: the small letters of one run and the
capitals of another lie apart, or one has the even and the other the odd places of a stretch that
they share (`CaseRun.misses`); and no run has small letters at the places that matter
(`CaseRun.avoids`).
-/

namespace SocksRouter.Text

/-! ### The runs of the table -/

namespace CaseRun

/-- The last small letter of a run. -/
def lastSmall (run : CaseRun) : Nat :=
  run.small + (run.last - run.first)

/-- A check that no small letter of one run is a capital of the other. -/
def misses (run other : CaseRun) : Bool :=
  Nat.blt run.lastSmall other.first || (Nat.blt other.last run.small ||
    (Nat.beq other.stride 2 && ((Nat.beq run.stride 2 || Nat.beq run.first run.last) &&
      Nat.beq ((run.small + other.first) % 2) 1)))

/-- A check that no small letter of a run lies in one of the ranges. -/
def avoids (run : CaseRun) (ranges : List (Nat × Nat)) : Bool :=
  ranges.all fun range ↦ Nat.blt run.lastSmall range.1 || Nat.blt range.2 run.small

theorem eq_of_small?_eq_some {run : CaseRun} {n m : Nat} (h : run.small? n = some m) :
    run.first ≤ n ∧ n ≤ run.last ∧ (n - run.first) % run.stride = 0 ∧
      m = run.small + (n - run.first) := by
  rw [small?] at h
  split at h
  · rename_i hn
    exact ⟨hn.1, hn.2.1, hn.2.2, (Option.some.inj h).symm⟩
  · contradiction

theorem small?_eq_none_of_misses {run other : CaseRun} (hmiss : run.misses other = true)
    {n m : Nat} (h : run.small? n = some m) : other.small? m = none := by
  obtain ⟨hfirst, hlast, hstride, rfl⟩ := eq_of_small?_eq_some h
  rw [small?, if_neg]
  rintro ⟨hfirst', hlast', hstride'⟩
  simp only [misses, lastSmall, Bool.or_eq_true, Bool.and_eq_true, Nat.blt_eq, Nat.beq_eq]
    at hmiss
  rcases hmiss with hmiss | hmiss | ⟨htwo, hmine, hodd⟩
  · omega
  · omega
  · rw [htwo] at hstride'
    rcases hmine with hmine | hmine
    · rw [hmine] at hstride
      omega
    · omega

theorem not_inRange_of_avoids {run : CaseRun} {ranges : List (Nat × Nat)}
    (havoid : run.avoids ranges = true) {n m : Nat} (h : run.small? n = some m) :
    ∀ range ∈ ranges, m < range.1 ∨ range.2 < m := by
  obtain ⟨hfirst, hlast, -, rfl⟩ := eq_of_small?_eq_some h
  intro range hrange
  have := List.all_eq_true.1 havoid range hrange
  simp only [Bool.or_eq_true, Nat.blt_eq, lastSmall] at this
  omega

end CaseRun

theorem smallIn_eq_self {runs : List CaseRun} {n : Nat} (h : ∀ run ∈ runs, run.small? n = none) :
    smallIn runs n = n := by
  induction runs with
  | nil => rfl
  | cons run rest ih =>
    rw [smallIn, h run List.mem_cons_self]
    split
    · rfl
    · exact ih fun r hr ↦ h r (List.mem_cons_of_mem _ hr)

/-- A code point is its own small letter, or it is a capital of a run. -/
theorem smallIn_eq_self_or (runs : List CaseRun) (n : Nat) :
    smallIn runs n = n ∨ ∃ run ∈ runs, run.small? n = some (smallIn runs n) := by
  induction runs with
  | nil => exact .inl rfl
  | cons run rest ih =>
    rw [smallIn]
    split
    · exact .inl rfl
    · rcases hsmall : run.small? n with - | m
      · rcases ih with ih | ⟨r, hr, ih⟩
        · exact .inl ih
        · exact .inr ⟨r, List.mem_cons_of_mem _ hr, ih⟩
      · exact .inr ⟨run, List.mem_cons_self, hsmall⟩

/-! ### The table -/

/-- Where no small letter of the table lies: at the surrogates, the blanks, the comma, and the two
capitals that are not in the table. -/
def notSmallRanges : List (Nat × Nat) :=
  [(0xD800, 0xDFFF), (0x2C, 0x2C), (0x0130, 0x0130), (0x03A3, 0x03A3)] ++ blankRanges

theorem caseRuns_misses :
    (caseRuns.all fun run ↦ caseRuns.all fun other ↦ run.misses other) = true := by
  decide +kernel

theorem caseRuns_avoids :
    (caseRuns.all fun run ↦ run.avoids notSmallRanges && Nat.blt run.lastSmall 0x110000) =
      true := by
  decide +kernel

/-- What is known of a small letter of the table. -/
structure IsTableSmall (n : Nat) : Prop where
  /-- It is the code point of a character. -/
  valid : n.isValidChar
  /-- It is no capital. -/
  fixed : smallIn caseRuns n = n
  /-- It lies outside the ranges that the table avoids. -/
  outside : ∀ range ∈ notSmallRanges, n < range.1 ∨ range.2 < n

theorem isTableSmall_of_small? {run : CaseRun} (hrun : run ∈ caseRuns) {n m : Nat}
    (h : run.small? n = some m) : IsTableSmall m := by
  have havoid := List.all_eq_true.1 caseRuns_avoids run hrun
  rw [Bool.and_eq_true, Nat.blt_eq, CaseRun.lastSmall] at havoid
  have houtside := CaseRun.not_inRange_of_avoids havoid.1 h
  refine ⟨?_, smallIn_eq_self fun other hother ↦ ?_, houtside⟩
  · obtain ⟨hfirst, hlast, -, rfl⟩ := CaseRun.eq_of_small?_eq_some h
    have := houtside (0xD800, 0xDFFF) (by decide)
    simp only [Nat.isValidChar]
    omega
  · exact CaseRun.small?_eq_none_of_misses
      (List.all_eq_true.1 (List.all_eq_true.1 caseRuns_misses run hrun) other hother) h

/-! ### Characters -/

/-- A character that lower-casing leaves alone, wherever it stands. -/
def IsLow (c : Char) : Prop :=
  smallLetter c = c ∧ c ≠ '\u03A3' ∧ c ≠ '\u0130'

instance (c : Char) : Decidable (IsLow c) :=
  inferInstanceAs (Decidable (_ ∧ _ ∧ _))

/-- A character that separates nothing: neither a blank nor a comma. -/
def IsInk (c : Char) : Prop :=
  isBlank c = false ∧ c ≠ ','

instance (c : Char) : Decidable (IsInk c) :=
  inferInstanceAs (Decidable (_ ∧ _))

theorem toNat_ofNat {n : Nat} (h : n.isValidChar) : (Char.ofNat n).toNat = n := by
  rw [Char.ofNat, dif_pos h]
  rfl

theorem isLow_and_isInk_of_isTableSmall {n : Nat} (h : IsTableSmall n) :
    IsLow (Char.ofNat n) ∧ IsInk (Char.ofNat n) := by
  have hn := toNat_ofNat h.valid
  have hne : ∀ c : Char, (c.toNat, c.toNat) ∈ notSmallRanges → Char.ofNat n ≠ c := by
    rintro c hc rfl
    have := h.outside _ hc
    omega
  refine ⟨⟨?_, hne _ (by decide), hne _ (by decide)⟩, ?_, hne _ (by decide)⟩
  · rw [smallLetter, hn, h.fixed]
  · rw [isBlank, hn, Bool.eq_false_iff]
    intro hblank
    obtain ⟨range, hrange, hlo, hhi⟩ := exists_mem_of_inRanges hblank
    have := h.outside range (List.mem_append_right _ hrange)
    omega

/-- A small letter is the character itself, which is then none of the table's capitals, or another
one, which is low and separates nothing. -/
theorem smallLetter_eq_self_or (c : Char) :
    smallLetter c = c ∨ IsLow (smallLetter c) ∧ IsInk (smallLetter c) := by
  rcases smallIn_eq_self_or caseRuns c.toNat with h | ⟨run, hrun, h⟩
  · left
    rw [smallLetter, h, Char.ofNat_toNat]
  · right
    exact isLow_and_isInk_of_isTableSmall (isTableSmall_of_small? hrun h)

/-! ### Texts -/

/-- **What lower-casing makes of the first character**: one or two low characters, each of them the
character itself or one that separates nothing. What becomes of the rest does not depend on them. -/
theorem exists_lowerAfter_cons (casedBefore : Bool) (c : Char) (rest : List Char) :
    ∃ piece after, lowerAfter casedBefore (c :: rest) = piece ++ lowerAfter after rest ∧
      piece ≠ [] ∧ ∀ d ∈ piece, IsLow d ∧ (d = c ∨ IsInk d) := by
  rw [lowerAfter]
  refine ⟨_, _, rfl, ?_, ?_⟩
  · split
    · simp
    · split <;> simp
  · intro d hd
    split at hd
    · split at hd <;> rw [List.mem_singleton.1 hd] <;> exact ⟨by decide +kernel, .inr (by decide)⟩
    · rename_i hsigma
      split at hd
      · rcases List.mem_cons.1 hd with rfl | hd
        · exact ⟨by decide +kernel, .inr (by decide)⟩
        · rw [List.mem_singleton.1 hd]
          exact ⟨by decide +kernel, .inr (by decide)⟩
      · rename_i hdotted
        rw [List.mem_singleton.1 hd]
        rcases smallLetter_eq_self_or c with h | ⟨hlow, hink⟩
        · rw [h]
          exact ⟨⟨h, hsigma, hdotted⟩, .inl rfl⟩
        · exact ⟨hlow, .inr hink⟩

theorem isLow_of_mem_lowerAfter {casedBefore : Bool} {s : List Char} :
    ∀ d ∈ lowerAfter casedBefore s, IsLow d := by
  induction s generalizing casedBefore with
  | nil => simp [lowerAfter]
  | cons c rest ih =>
    obtain ⟨piece, after, heq, -, hpiece⟩ := exists_lowerAfter_cons casedBefore c rest
    intro d hd
    rw [heq] at hd
    rcases List.mem_append.1 hd with hd | hd
    · exact (hpiece d hd).1
    · exact ih d hd

theorem lowerAfter_eq_self {casedBefore : Bool} {s : List Char} (h : ∀ c ∈ s, IsLow c) :
    lowerAfter casedBefore s = s := by
  induction s generalizing casedBefore with
  | nil => rfl
  | cons c rest ih =>
    obtain ⟨hsmall, hsigma, hdotted⟩ := h c List.mem_cons_self
    rw [lowerAfter, if_neg hsigma, if_neg hdotted, hsmall,
      ih fun d hd ↦ h d (List.mem_cons_of_mem _ hd), List.singleton_append]

/-- **Lower case is in lower case.** -/
theorem lower_lower (s : List Char) : lower (lower s) = lower s :=
  lowerAfter_eq_self isLow_of_mem_lowerAfter

/-- Lower-casing brings nothing into a text that separates. -/
theorem mem_lowerAfter {casedBefore : Bool} {s : List Char} {d : Char}
    (h : d ∈ lowerAfter casedBefore s) : d ∈ s ∨ IsInk d := by
  induction s generalizing casedBefore with
  | nil => simp [lowerAfter] at h
  | cons c rest ih =>
    obtain ⟨piece, after, heq, -, hpiece⟩ := exists_lowerAfter_cons casedBefore c rest
    rw [heq] at h
    rcases List.mem_append.1 h with h | h
    · exact (hpiece d h).2.imp (by rintro rfl; exact List.mem_cons_self) id
    · exact (ih h).imp (List.mem_cons_of_mem _) id

theorem mem_lower {s : List Char} {d : Char} (h : d ∈ lower s) : d ∈ s ∨ IsInk d :=
  mem_lowerAfter h

theorem lowerAfter_eq_nil_iff {casedBefore : Bool} {s : List Char} :
    lowerAfter casedBefore s = [] ↔ s = [] := by
  cases s with
  | nil => simp [lowerAfter]
  | cons c rest =>
    obtain ⟨piece, after, heq, hne, -⟩ := exists_lowerAfter_cons casedBefore c rest
    simp [heq, hne]

theorem lower_eq_nil_iff {s : List Char} : lower s = [] ↔ s = [] :=
  lowerAfter_eq_nil_iff

theorem getLast?_lowerAfter {casedBefore : Bool} {s : List Char}
    (h : ∀ c ∈ s.getLast?, isBlank c = false) :
    ∀ d ∈ (lowerAfter casedBefore s).getLast?, isBlank d = false := by
  induction s generalizing casedBefore with
  | nil => simp [lowerAfter]
  | cons c rest ih =>
    obtain ⟨piece, after, heq, hne, hpiece⟩ := exists_lowerAfter_cons casedBefore c rest
    intro d hd
    rw [heq] at hd
    cases rest with
    | nil =>
      rw [lowerAfter, List.append_nil] at hd
      rcases (hpiece d (List.mem_of_getLast? hd)).2 with rfl | hink
      · exact h d rfl
      · exact hink.1
    | cons b more =>
      rw [List.getLast?_append_of_ne_nil _ (by simp [lowerAfter_eq_nil_iff])] at hd
      rw [List.getLast?_cons_cons] at h
      exact ih h d hd

/-- Lower-casing leaves a trimmed text trimmed. -/
theorem isTrimmed_lower {s : List Char} (h : IsTrimmed s) : IsTrimmed (lower s) := by
  refine ⟨?_, getLast?_lowerAfter h.2⟩
  cases s with
  | nil => simp [lower, lowerAfter]
  | cons c rest =>
    obtain ⟨piece, after, heq, hne, hpiece⟩ := exists_lowerAfter_cons false c rest
    obtain ⟨first, more, rfl⟩ := List.exists_cons_of_ne_nil hne
    intro d hd
    rw [lower, heq, List.cons_append, List.head?_cons, Option.mem_some_iff] at hd
    subst hd
    rcases (hpiece first List.mem_cons_self).2 with rfl | hink
    · exact h.1 first rfl
    · exact hink.1

/-! ### How many characters there are -/

theorem caseRuns_small : (caseRuns.all fun run ↦ Nat.ble 0x61 run.small) = true := by
  decide +kernel

/-- No small letter of the table comes before the letter a. -/
theorem smallLetter_eq_self_or_le (c : Char) :
    smallLetter c = c ∨ 0x61 ≤ (smallLetter c).toNat := by
  rcases smallIn_eq_self_or caseRuns c.toNat with h | ⟨run, hrun, h⟩
  · left
    rw [smallLetter, h, Char.ofNat_toNat]
  · right
    have hsmall := Nat.le_of_ble_eq_true (List.all_eq_true.1 caseRuns_small run hrun)
    obtain ⟨-, -, -, hm⟩ := CaseRun.eq_of_small?_eq_some h
    rw [smallLetter, toNat_ofNat (isTableSmall_of_small? hrun h).valid, hm]
    exact Nat.le_add_right_of_le hsmall

theorem count_lowerAfter_le {d : Char} (hd : d.toNat < 0x61) (casedBefore : Bool) (s : List Char) :
    (lowerAfter casedBefore s).count d ≤ s.count d := by
  induction s generalizing casedBefore with
  | nil => simp [lowerAfter]
  | cons c rest ih =>
    have hnot : ∀ {piece : List Char}, (∀ x ∈ piece, 0x61 ≤ x.toNat) → piece.count d = 0 :=
      fun hpiece ↦ List.count_eq_zero.2 fun hmem ↦ absurd (hpiece d hmem) (Nat.not_le.2 hd)
    rw [lowerAfter, List.count_append, List.count_cons, Nat.add_comm]
    refine Nat.add_le_add (ih _) ?_
    split
    · rw [hnot (by split <;> simp)]
      exact Nat.zero_le _
    · split
      · rw [hnot (by simp)]
        exact Nat.zero_le _
      · rcases smallLetter_eq_self_or_le c with h | h
        · simp [h, List.count_cons]
        · rw [hnot (by simpa using h)]
          exact Nat.zero_le _

/-- A character before the letter a does not become more frequent. -/
theorem count_lower_le {d : Char} (hd : d.toNat < 0x61) (s : List Char) :
    (lower s).count d ≤ s.count d :=
  count_lowerAfter_le hd false s

theorem length_lowerAfter {s : List Char} (h : '\u0130' ∉ s) (casedBefore : Bool) :
    (lowerAfter casedBefore s).length = s.length := by
  induction s generalizing casedBefore with
  | nil => rfl
  | cons c rest ih =>
    rw [List.mem_cons, not_or] at h
    rw [lowerAfter, if_neg (Ne.symm h.1), List.length_append, ih h.2, List.length_cons,
      Nat.add_comm]
    congr 1
    split <;> rfl

/-- Only the capital I with a dot above becomes more than one character. -/
theorem length_lower {s : List Char} (h : '\u0130' ∉ s) : (lower s).length = s.length :=
  length_lowerAfter h false

end SocksRouter.Text
