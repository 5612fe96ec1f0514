import Mathlib.Data.List.Basic
import SocksRouter.Text.Lowercase

/-!
# The lower case of a stretch of a text

Lower-casing is almost letter by letter. A text of two parts has the lower case of both, one behind
the other, but the first part has to be lower-cased with the second in sight, and the second with
the first in mind (`lowerAfter_append`). All that either part sees of the other is whether a letter
with case stands next to it, and all that this decides is the form of the capital sigmas.

So a stretch of a text has the same lower case in two places just when its capital sigmas have the
same forms there (`lowerIn_eq_lowerIn_iff`); it has the same length in any case.
-/

namespace SocksRouter.Text

/-- Whether a letter with case stands in front, once a character has been passed. -/
def casedPast (casedBefore : Bool) (c : Char) : Bool :=
  if isCaseIgnorable c then casedBefore else isCased c

/-- The lower case of one character, with letters with case in front of it and behind it or not. -/
def lowerChar (casedBefore casedBehind : Bool) (c : Char) : List Char :=
  if c = '\u03A3' then [if casedBefore && !casedBehind then '\u03C2' else '\u03C3']
  else if c = '\u0130' then ['i', '\u0307']
  else [smallLetter c]

/-- The lower case of a stretch that stands in front of `after`. -/
def lowerIn (casedBefore : Bool) (after : List Char) : List Char → List Char
  | [] => []
  | c :: rest =>
    lowerChar casedBefore (casedAhead (rest ++ after)) c ++
      lowerIn (casedPast casedBefore c) after rest

theorem lowerAfter_cons (casedBefore : Bool) (c : Char) (rest : List Char) :
    lowerAfter casedBefore (c :: rest) =
      lowerChar casedBefore (casedAhead rest) c ++ lowerAfter (casedPast casedBefore c) rest :=
  rfl

/-- **A text of two parts has the lower case of both**, each of them with the other around it. -/
theorem lowerAfter_append (casedBefore : Bool) (s t : List Char) :
    lowerAfter casedBefore (s ++ t) =
      lowerIn casedBefore t s ++ lowerAfter (s.foldl casedPast casedBefore) t := by
  induction s generalizing casedBefore with
  | nil => rfl
  | cons c rest ih =>
    rw [List.cons_append, lowerAfter_cons, ih, lowerIn, List.append_assoc, List.foldl_cons]

theorem lowerIn_nil (casedBefore : Bool) (s : List Char) :
    lowerIn casedBefore [] s = lowerAfter casedBefore s := by
  have happend := lowerAfter_append casedBefore s []
  rw [List.append_nil, lowerAfter, List.append_nil] at happend
  exact happend.symm

theorem casedAhead_cons (c : Char) (s : List Char) :
    casedAhead (c :: s) = casedPast (casedAhead s) c := by
  rw [casedPast, casedAhead]
  by_cases h : isCaseIgnorable c
  · rw [List.dropWhile_cons_of_pos h, if_pos h, casedAhead]
  · rw [List.dropWhile_cons_of_neg h, if_neg h]

/-- What has been passed is looked back on. -/
theorem foldl_casedPast (s : List Char) : s.foldl casedPast false = casedAhead s.reverse := by
  rw [← List.foldr_reverse]
  induction s.reverse with
  | nil => rfl
  | cons c rest ih => rw [List.foldr_cons, ih, casedAhead_cons]

/-! ### The forms of the sigmas -/

/-- Whether a capital sigma takes its final form between two texts: a letter with case stands in
front of it and none behind it, characters that are looked through not counting. -/
def IsFinalPlace (before after : List Char) : Bool :=
  casedAhead before.reverse && !casedAhead after

/-- The forms of the capital sigmas of a stretch that stands between two texts, final or not. -/
def sigmaForms (before after : List Char) : List Char → List Bool
  | [] => []
  | c :: rest =>
    (if c = '\u03A3' then [IsFinalPlace before (rest ++ after)] else []) ++
      sigmaForms (before ++ [c]) after rest

/-- Only capital sigmas have forms. -/
theorem sigmaForms_of_not_mem {s : List Char} (h : '\u03A3' ∉ s) (before after : List Char) :
    sigmaForms before after s = [] := by
  induction s generalizing before with
  | nil => rfl
  | cons c rest ih =>
    rw [List.mem_cons, not_or] at h
    rw [sigmaForms, if_neg (Ne.symm h.1), ih h.2, List.append_nil]

theorem length_lowerIn (casedBefore casedBefore' : Bool) (after after' s : List Char) :
    (lowerIn casedBefore after s).length = (lowerIn casedBefore' after' s).length := by
  induction s generalizing casedBefore casedBefore' with
  | nil => rfl
  | cons c rest ih =>
    have hchar : ∀ a b a' b', (lowerChar a b c).length = (lowerChar a' b' c).length := by
      intro a b a' b'
      rw [lowerChar, lowerChar]
      split <;> rfl
    rw [lowerIn, lowerIn, List.length_append, List.length_append,
      ih (casedPast casedBefore c) (casedPast casedBefore' c), hchar]

/-- **A stretch has the same lower case in two places just when its sigmas have the same forms
there.** -/
theorem lowerIn_eq_lowerIn_iff (before before' after after' s : List Char) :
    lowerIn (casedAhead before.reverse) after s = lowerIn (casedAhead before'.reverse) after' s ↔
      sigmaForms before after s = sigmaForms before' after' s := by
  induction s generalizing before before' with
  | nil => exact iff_of_true rfl rfl
  | cons c rest ih =>
    have hpast : ∀ b : List Char,
        casedPast (casedAhead b.reverse) c = casedAhead (b ++ [c]).reverse := by
      intro b
      rw [List.reverse_append, List.reverse_singleton, List.singleton_append, casedAhead_cons]
    rw [lowerIn, lowerIn, sigmaForms, sigmaForms, hpast, hpast]
    by_cases hsigma : c = '\u03A3'
    · have hform : ∀ b b' : Bool,
          (if b then '\u03C2' else '\u03C3') = (if b' then '\u03C2' else '\u03C3') ↔ b = b' := by
        decide
      simp only [lowerChar, if_pos hsigma, List.singleton_append, List.cons.injEq, hform, ih,
        IsFinalPlace]
    · have hchar : ∀ a b a' b', lowerChar a b c = lowerChar a' b' c := by
        intro a b a' b'
        rw [lowerChar, lowerChar, if_neg hsigma, if_neg hsigma]
      rw [hchar _ _ (casedAhead before'.reverse) (casedAhead (rest ++ after')),
        List.append_cancel_left_eq, if_neg hsigma, if_neg hsigma, List.nil_append,
        List.nil_append, ih]

/-! ### Stretches of a text -/

/-- A stretch whose capital sigmas have the forms in a text that they have when it stands alone. -/
def KeepsForms (before after s : List Char) : Prop :=
  sigmaForms before after s = sigmaForms [] [] s

instance (before after s : List Char) : Decidable (KeepsForms before after s) :=
  inferInstanceAs (Decidable (_ = _))

theorem keepsForms_of_not_mem {s : List Char} (h : '\u03A3' ∉ s) (before after : List Char) :
    KeepsForms before after s := by
  rw [KeepsForms, sigmaForms_of_not_mem h, sigmaForms_of_not_mem h]

/-- The lower case of a text in three parts. The one in the middle is as long as it is alone, and
it is the same just when it keeps its forms. -/
theorem exists_lower_append (before s after : List Char) :
    ∃ first middle last, lower (before ++ (s ++ after)) = first ++ (middle ++ last) ∧
      middle.length = (lower s).length ∧ (middle = lower s ↔ KeepsForms before after s) ∧
      (after = [] → last = []) := by
  refine ⟨lowerIn false (s ++ after) before, lowerIn (casedAhead before.reverse) after s,
    lowerAfter (s.foldl casedPast (casedAhead before.reverse)) after, ?_, ?_, ?_, ?_⟩
  · rw [lower, lowerAfter_append, lowerAfter_append, foldl_casedPast]
  · rw [lower, ← lowerIn_nil]
    exact length_lowerIn _ _ _ _ s
  · rw [lower, ← lowerIn_nil]
    exact lowerIn_eq_lowerIn_iff before [] after [] s
  · rintro rfl
    rfl

end SocksRouter.Text
