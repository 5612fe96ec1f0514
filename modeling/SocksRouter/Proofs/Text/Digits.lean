import Mathlib.Data.List.Basic
import Mathlib.Data.List.TakeWhile
import SocksRouter.Text.Blank
import SocksRouter.Text.Digits

/-!
# Reading numbers

A text that is read as a number is made of decimal digits (`decimal_of_readNumber_eq_ok`); one that
is not has too many of them, or something else among them (`readNumber_eq_error`).

An ASCII digit is a decimal digit, and it is the digit of its value (`digitChar_digitValue`). So a
text of ASCII digits is read as the number that its values spell, unless there are too many of them
(`readNumber_eq_ok_iff`), and the decimal text of a number is read as that number
(`readNumber_toDigits`).
-/

namespace SocksRouter.Text

/-! ### Decimal digits -/

/-- Whether a character is a decimal digit of some script. -/
def IsDecimal (c : Char) : Prop :=
  (decimalValue? c).isSome = true

theorem IsDecimal.isDigit {c : Char} (h : IsDecimal c) : isDigit c = true :=
  Bool.or_eq_true_iff.2 (.inl h)

/-- A decimal digit has its place in one of the sets of ten. -/
theorem IsDecimal.exists_toNat_eq {c : Char} (h : IsDecimal c) :
    ∃ first ∈ decimalZeros, ∃ value < 10, c.toNat = first + value := by
  obtain ⟨value, hvalue⟩ := Option.isSome_iff_exists.1 h
  obtain ⟨first, hfind, -⟩ := Option.map_eq_some_iff.1 hvalue
  obtain ⟨hlo, hhi⟩ : first ≤ c.toNat ∧ c.toNat < first + 10 := by
    simpa using List.find?_some hfind
  exact ⟨first, List.mem_of_find?_eq_some hfind, c.toNat - first, by omega, by omega⟩

theorem IsDecimal.isBlank_eq_false {c : Char} (h : IsDecimal c) : isBlank c = false := by
  have hall : ∀ first ∈ decimalZeros, ∀ value < 10,
      inRanges blankRanges (first + value) = false := by
    decide +kernel
  obtain ⟨first, hfirst, value, hvalue, hc⟩ := h.exists_toNat_eq
  rw [isBlank, hc]
  exact hall first hfirst value hvalue

/-- A number is read from decimal digits only. -/
theorem decimal_of_readNumber_eq_ok {s : List Char} {n : Nat} (h : readNumber s = .ok n) :
    s ≠ [] ∧ ∀ c ∈ s, IsDecimal c := by
  rw [readNumber] at h
  split at h
  · contradiction
  · split at h
    · contradiction
    · rename_i hread
      simp only [not_or, not_lt, Bool.not_eq_true, List.isEmpty_eq_false_iff] at hread
      obtain ⟨hlength, hne⟩ := hread
      have hall := (List.takeWhile_prefix _).eq_of_length_le hlength
      exact ⟨hne, List.takeWhile_eq_self_iff.1 hall⟩

/-- **Two things keep a text from being a number**: too many digits in front, or something among
them that is no decimal digit. -/
theorem readNumber_eq_error {s : List Char} {cause : NumberError} (hne : s ≠ [])
    (h : readNumber s = .error cause) :
    (∃ leading rest, s = leading ++ rest ∧ (∀ c ∈ leading, IsDecimal c) ∧
        maxDigits < leading.length ∧ cause = .tooLong leading.length) ∨
      (∃ c ∈ s, ¬IsDecimal c) ∧ cause = .notDecimal (String.ofList s) := by
  have hleading : ∀ c ∈ s.takeWhile fun c ↦ (decimalValue? c).isSome, IsDecimal c :=
    fun _ ↦ List.mem_takeWhile_imp
  rw [readNumber] at h
  split at h
  · rename_i hlong
    exact .inl ⟨_, _, List.takeWhile_append_dropWhile.symm, hleading, hlong,
      (Except.error.inj h).symm⟩
  · split at h
    · rename_i hshort
      refine .inr ⟨?_, (Except.error.inj h).symm⟩
      by_contra hall
      simp only [not_exists, not_and, not_not] at hall
      rw [List.takeWhile_eq_self_iff.2 hall] at hshort
      simp [hne] at hshort
    · contradiction

/-! ### ASCII digits -/

/-- The value of an ASCII digit. -/
def digitValue (c : Char) : Nat :=
  c.toNat - '0'.toNat

/-- An ASCII digit is the digit of its value. -/
theorem digitChar_digitValue {c : Char} (h : isAsciiDigit c = true) :
    digitValue c < 10 ∧ Nat.digitChar (digitValue c) = c := by
  simp only [isAsciiDigit, Char.le_def, decide_eq_true_eq] at h
  have hlo : 48 ≤ c.toNat := h.1
  have hhi : c.toNat ≤ 57 := h.2
  have hdigits : ∀ d < 10, Nat.digitChar d = Char.ofNat (d + 48) := by decide
  have hvalue : digitValue c = c.toNat - 48 := rfl
  refine ⟨by omega, ?_⟩
  rw [hdigits _ (by omega), hvalue, Nat.sub_add_cancel hlo, Char.ofNat_toNat]

theorem decimalValue?_eq_some {c : Char} (h : isAsciiDigit c = true) :
    decimalValue? c = some (digitValue c) := by
  have hall : ∀ d < 10, decimalValue? (Nat.digitChar d) = some d := by decide +kernel
  obtain ⟨hlt, hchar⟩ := digitChar_digitValue h
  rw [← hchar, hall _ hlt, hchar]

/-- The number that a text of ASCII digits spells. -/
def spelledNumber (s : List Char) : Nat :=
  digitsToNat (s.map digitValue)

theorem filterMap_decimalValue? {s : List Char} (h : ∀ c ∈ s, isAsciiDigit c = true) :
    s.filterMap decimalValue? = s.map digitValue :=
  List.filterMap_eq_map_iff_forall_eq_some.2 fun c hc ↦ decimalValue?_eq_some (h c hc)

theorem takeWhile_decimal {s : List Char} (h : ∀ c ∈ s, isAsciiDigit c = true) :
    s.takeWhile (fun c ↦ (decimalValue? c).isSome) = s :=
  List.takeWhile_eq_self_iff.2 fun c hc ↦ by rw [decimalValue?_eq_some (h c hc)]; rfl

/-- **A text of ASCII digits is a number up to the limit on digits**, leading zeros and all. -/
theorem readNumber_eq_ok_iff {s : List Char} (h : isAsciiDigitString s = true) {n : Nat} :
    readNumber s = .ok n ↔ s.length ≤ maxDigits ∧ spelledNumber s = n := by
  simp only [isAsciiDigitString, Bool.and_eq_true, Bool.not_eq_true', List.isEmpty_eq_false_iff,
    List.all_eq_true] at h
  obtain ⟨hne, hall⟩ := h
  rw [readNumber, takeWhile_decimal hall, filterMap_decimalValue? hall]
  split
  · rename_i hlong
    simp only [reduceCtorEq, false_iff, not_and]
    omega
  · rename_i hshort
    rw [if_neg (by simp [hne]), Except.ok.injEq, spelledNumber]
    simp only [iff_and_self]
    omega

/-! ### The decimal text of a number -/

theorem isAsciiDigitString_toDigits (n : Nat) : isAsciiDigitString (Nat.toDigits 10 n) = true := by
  have hdigit : ∀ c ∈ Nat.toDigits 10 n, isAsciiDigit c = true := by
    intro c hc
    have hrange := Nat.isDigit_of_mem_toDigits (by decide) (by decide) hc
    rw [Char.isDigit, Bool.and_eq_true, decide_eq_true_eq, decide_eq_true_eq] at hrange
    exact decide_eq_true hrange
  simpa [isAsciiDigitString, Nat.toDigits_ne_nil] using hdigit

/-- The decimal text of a number spells it. -/
theorem spelledNumber_toDigits (n : Nat) : spelledNumber (Nat.toDigits 10 n) = n := by
  rw [spelledNumber, digitsToNat, List.foldl_map]
  exact Nat.ofDigitChars_toDigits (by decide) (by decide)

/-- A number of up to five digits is not too long to be read. -/
theorem length_toDigits_le_maxDigits {n : Nat} (h : n < 100000) :
    (Nat.toDigits 10 n).length ≤ maxDigits := by
  have hlength : (Nat.toDigits 10 n).length ≤ 5 :=
    (Nat.length_toDigits_le_iff (by decide) (by decide)).2 h
  exact hlength.trans (by decide)

theorem readNumber_toDigits {n : Nat} (h : (Nat.toDigits 10 n).length ≤ maxDigits) :
    readNumber (Nat.toDigits 10 n) = .ok n :=
  (readNumber_eq_ok_iff (isAsciiDigitString_toDigits n)).2 ⟨h, spelledNumber_toDigits n⟩

end SocksRouter.Text
