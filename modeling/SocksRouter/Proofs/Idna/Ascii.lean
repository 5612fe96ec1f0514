import Mathlib.Data.List.Basic
import SocksRouter.Idna.Label
import SocksRouter.Proofs.Outcome
import SocksRouter.Proofs.Text.Fields

/-!
# Encoded names are ASCII

Whatever a host name is made of, what is sent for it is ASCII (`isAscii_of_encodeChars`), and an
ASCII name is sent as it is, or not at all: it is refused exactly if one of its labels has a wrong
length (`encodeChars_ascii`).

For a name that is not ASCII this comes down to Punycode. Its numbers are written with digits of
base 36, and a digit is below 36 because the threshold of its place is at most 26
(`isAscii_of_mem_digits`). The progress of the encoder only ever adds such digits to what it has
written, so one step keeps its output ASCII (`Progress.isAscii_pass`), and with that the whole run
does.
-/

namespace SocksRouter.Idna

open Outcome Text

/-! ### Punycode -/

namespace Punycode

theorem isAscii_digitChar {d : Nat} (h : d < 36) : isAscii (digitChar d) = true := by
  have hall : ∀ d < 36, isAscii (digitChar d) = true := by decide
  exact hall d h

theorem isAscii_of_mem_digits {q k bias : Nat} {c : Char} (h : c ∈ digits q k bias) :
    isAscii c = true := by
  fun_induction digits q k bias with
  | case1 q k t hlast =>
    have hhigh := threshold_le k bias
    rw [List.mem_singleton.1 h]
    exact isAscii_digitChar (by omega)
  | case2 q k t hmore ih =>
    have hlow := one_le_threshold k bias
    have hhigh := threshold_le k bias
    rcases List.mem_cons.1 h with rfl | h
    · have hrest : (q - t) % (36 - t) < 36 - t := Nat.mod_lt _ (by omega)
      exact isAscii_digitChar (by omega)
    · exact ih h

/-- The digits written so far are ASCII. -/
def Progress.IsAscii (p : Progress) : Prop :=
  ∀ c ∈ p.output, isAscii c = true

/-- **Passing a character writes nothing but ASCII.** -/
theorem Progress.isAscii_pass {p : Progress} (h : p.IsAscii) (m : Nat) (c : Char) :
    (p.pass m c).IsAscii := by
  unfold Progress.pass
  split
  · exact h
  split
  · intro d hd
    rcases List.mem_append.1 hd with hd | hd
    · exact isAscii_of_mem_digits (List.mem_reverse.1 hd)
    · exact h d hd
  · exact h

theorem isAscii_writePoints {p : Progress} (h : p.IsAscii) (label : List Char) (n : Nat)
    (points : List Nat) : (writePoints label n p points).IsAscii := by
  induction points generalizing n p with
  | nil => exact h
  | cons m rest ih =>
    have hpass : ∀ start : Progress, start.IsAscii →
        (label.foldl (Progress.pass m) start).IsAscii := fun start hstart ↦
      List.foldlRecOn label (Progress.pass m) hstart fun _ hp c _ ↦ Progress.isAscii_pass hp m c
    rw [writePoints]
    refine ih ?_ (m + 1)
    exact hpass { p with delta := p.delta + (m - n) * (p.written + 1) } h

/-- **Punycode is ASCII.** -/
theorem isAscii_of_mem_encode {label : List Char} {c : Char} (h : c ∈ encode label) :
    isAscii c = true := by
  rw [encode] at h
  rcases List.mem_append.1 h with hbasic | hnumber
  · split at hbasic
    · cases hbasic
    rcases List.mem_append.1 hbasic with hc | hhyphen
    · exact (List.mem_filter.1 hc).2
    · rw [List.mem_singleton.1 hhyphen]
      rfl
  · have hstart : (⟨0, 72, (label.filter fun c ↦ c.toNat < 0x80).length, false, []⟩ :
        Progress).IsAscii := fun c hc ↦ absurd hc List.not_mem_nil
    exact isAscii_writePoints hstart _ _ _ c (List.mem_reverse.1 hnumber)

end Punycode

/-! ### Labels -/

theorem checkLength_eq_ok {label s : List Char} (h : checkLength label = .ok s) : s = label := by
  rw [checkLength] at h
  split at h
  · exact (Except.ok.inj h).symm
  · cases h

theorem isAscii_of_encodeLabel {label s : List Char} (h : encodeLabel label = .ok s) :
    ∀ c ∈ s, isAscii c = true := by
  rw [encodeLabel] at h
  split at h
  · rename_i hascii
    rw [checkLength_eq_ok h]
    exact List.all_eq_true.1 hascii
  obtain ⟨prepared, -, h⟩ := bind_eq_ok.1 h
  split at h
  · rename_i hascii
    rw [checkLength_eq_ok h]
    exact List.all_eq_true.1 hascii
  split at h
  · cases h
  · rw [checkLength_eq_ok h]
    intro c hc
    rcases List.mem_append.1 hc with hmark | hcode
    · have hall : "xn--".toList.all isAscii = true := by decide
      exact List.all_eq_true.1 hall c hmark
    · exact Punycode.isAscii_of_mem_encode hcode

theorem isAscii_of_mapM_encodeLabel {labels encoded : List (List Char)}
    (h : labels.mapM encodeLabel = .ok encoded) :
    ∀ label ∈ encoded, ∀ c ∈ label, isAscii c = true := by
  induction labels generalizing encoded with
  | nil =>
    obtain rfl := pure_eq_ok.1 h
    simp
  | cons label rest ih =>
    rw [List.mapM_cons] at h
    obtain ⟨first, hfirst, h⟩ := bind_eq_ok.1 h
    obtain ⟨more, hmore, h⟩ := bind_eq_ok.1 h
    obtain rfl := pure_eq_ok.1 h
    exact List.forall_mem_cons.2 ⟨isAscii_of_encodeLabel hfirst, ih hmore⟩

/-! ### Names -/

theorem isAscii_of_mem_intercalate {labels : List (List Char)}
    (h : ∀ label ∈ labels, ∀ c ∈ label, isAscii c = true) :
    ∀ c ∈ ['.'].intercalate labels, isAscii c = true := by
  induction labels with
  | nil => simp
  | cons label rest ih =>
    obtain ⟨hlabel, hrest⟩ := List.forall_mem_cons.1 h
    rcases rest with - | ⟨second, more⟩
    · simpa using hlabel
    · intro c hc
      rw [List.intercalate_cons_cons, List.mem_append, List.mem_append] at hc
      rcases hc with (hc | hdot) | hc
      · exact hlabel c hc
      · rw [List.mem_singleton.1 hdot]
        rfl
      · exact ih hrest c hc

/-- A label of an ASCII name has a length that cannot be sent: it has more than 63 characters, or it
is empty and not the last one. -/
def HasBadLabel (labels : List (List Char)) : Prop :=
  ∃ before label after, labels = before ++ label :: after ∧
    (63 < label.length ∨ label = [] ∧ after ≠ [])

theorem hasBadLabel_cons {label : List Char} {rest : List (List Char)} :
    HasBadLabel (label :: rest) ↔
      (63 < label.length ∨ label = [] ∧ rest ≠ []) ∨ HasBadLabel rest := by
  constructor
  · rintro ⟨before, bad, after, hlabels, hbad⟩
    cases before with
    | nil =>
      obtain ⟨rfl, rfl⟩ := List.cons.inj hlabels
      exact .inl hbad
    | cons first more =>
      obtain ⟨rfl, rfl⟩ := List.cons.inj hlabels
      exact .inr ⟨more, bad, after, rfl, hbad⟩
  · rintro (hbad | ⟨before, bad, after, rfl, hbad⟩)
    · exact ⟨[], label, rest, rfl, hbad⟩
    · exact ⟨label :: before, bad, after, rfl, hbad⟩

/-- **The lengths of the labels are right**, or the name is refused. -/
theorem checkLabels_eq_ok_iff {labels : List (List Char)} :
    checkLabels labels = .ok () ↔ ¬HasBadLabel labels := by
  have hnil : ¬HasBadLabel [] := by
    rintro ⟨before, label, after, hlabels, -⟩
    simp at hlabels
  fun_induction checkLabels labels with
  | case1 => simp [hnil]
  | case2 last hlength =>
    simp only [hasBadLabel_cons, hnil, ne_eq, not_true_eq_false, and_false, or_false, true_iff]
    omega
  | case3 last hlength =>
    simp only [hasBadLabel_cons, hnil, ne_eq, not_true_eq_false, and_false, or_false, reduceCtorEq,
      false_iff]
    omega
  | case4 label rest hrest hlength ih =>
    have hgood : ¬(63 < label.length ∨ label = [] ∧ rest ≠ []) := by
      rintro (hlong | ⟨rfl, -⟩)
      · omega
      · simp at hlength
    refine ih.trans (not_congr ?_)
    rw [hasBadLabel_cons, or_iff_right hgood]
  | case5 label rest hrest hlength =>
    have hbad : 63 < label.length ∨ label = [] ∧ rest ≠ [] := by
      rcases Nat.eq_zero_or_pos label.length with hzero | hpos
      · exact .inr ⟨List.length_eq_zero_iff.1 hzero, hrest⟩
      · exact .inl (by omega)
    simp only [hasBadLabel_cons, hbad, true_or, not_true_eq_false, reduceCtorEq]

/-- **An ASCII name is sent as it is**, if no label of it has a wrong length. -/
theorem encodeChars_ascii {name s : List Char} (hascii : ∀ c ∈ name, isAscii c = true) :
    encodeChars name = .ok s ↔ ¬HasBadLabel (fields (· == '.') name) ∧ s = name := by
  rw [encodeChars, if_pos (List.all_eq_true.2 hascii)]
  split
  · rename_i hempty
    obtain rfl := List.isEmpty_iff.1 hempty
    have hgood : ¬HasBadLabel (fields (· == '.') []) := checkLabels_eq_ok_iff.1 rfl
    rw [Except.ok.injEq, and_iff_right hgood, eq_comm]
  · rw [← checkLabels_eq_ok_iff]
    rcases checkLabels (fields (· == '.') name) with cause | ⟨⟩
    · exact ⟨nofun, fun h ↦ nomatch h.1⟩
    · rw [and_iff_right rfl, eq_comm]
      exact iff_of_eq (Except.ok.injEq ..)

/-- **What is sent is ASCII.** -/
theorem isAscii_of_encodeChars {name s : List Char} (h : encodeChars name = .ok s) :
    ∀ c ∈ s, isAscii c = true := by
  by_cases hascii : name.all isAscii = true
  · rw [((encodeChars_ascii (List.all_eq_true.1 hascii)).1 h).2]
    exact List.all_eq_true.1 hascii
  rw [encodeChars, if_neg hascii] at h
  -- A trailing dot is set aside with the empty label behind it, and put back at the end.
  have htail : ∀ (labels : List (List Char)) (tail : List Char), (∀ c ∈ tail, isAscii c = true) →
      (do return ['.'].intercalate (← labels.mapM encodeLabel) ++ tail) = .ok s →
      ∀ c ∈ s, isAscii c = true := by
    intro labels tail htail h
    obtain ⟨encoded, hencoded, h⟩ := bind_eq_ok.1 h
    obtain rfl := pure_eq_ok.1 h
    intro c hc
    rcases List.mem_append.1 hc with hc | hc
    · exact isAscii_of_mem_intercalate (isAscii_of_mapM_encodeLabel hencoded) c hc
    · exact htail c hc
  by_cases hlast : (fields isDot name).getLast? = some []
  · simp only [hlast, if_true] at h
    exact htail _ ['.'] (List.forall_mem_singleton.2 rfl) h
  · simp only [hlast, if_false] at h
    exact htail _ [] (by simp) h

end SocksRouter.Idna
