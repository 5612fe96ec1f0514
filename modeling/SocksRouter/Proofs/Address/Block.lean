import Mathlib.Data.Nat.Bitwise
import SocksRouter.Address.Block
import SocksRouter.Proofs.Address.IPv4

/-!
# What a block text means

A block is read off exactly the texts `a.b.c.d/n` (`parse_eq_ok_iff`), and an address passes its
mask exactly when it lies in the stretch of addresses that the base and the number of bits mark out
(`contains_around_iff`). Neither side mentions the other: the text is an address, a slash and
digits, the stretch is two bounds, and the mask is what stands between them.
-/

namespace SocksRouter.Block

open Outcome Text

/-! ### The text of a block -/

/-- The text is an address, a slash and the ASCII digits of a number of bits: leading zeros are
allowed, more digits than a number may have are not, and neither are more bits than an address
has. -/
def IsText (text : String) (base : IPv4) (bits : Nat) : Prop :=
  ∃ digits, text.toList = base.toChars ++ '/' :: digits ∧ isAsciiDigitString digits = true ∧
    digits.length ≤ maxDigits ∧ spelledNumber digits = bits ∧ bits ≤ addressBits

/-- **Reading a block accepts exactly its texts.** -/
theorem parse_eq_ok_iff {text : String} {block : Block} :
    parse text = .ok block ↔ ∃ base bits, IsText text base bits ∧ block = around base bits := by
  constructor
  · intro h
    rw [parse] at h
    split at h
    · contradiction
    rename_i before digits hcut
    split at h
    · contradiction
    rename_i hdigits
    split at h
    · contradiction
    rename_i bits hbits
    split at h
    · contradiction
    rename_i hle
    split at h
    · contradiction
    rename_i base hbase
    have hdigits : isAsciiDigitString digits = true := by simpa using hdigits
    obtain ⟨hshort, hnumber⟩ := (readNumber_eq_ok_iff hdigits).1 hbits
    rw [IPv4.parseChars_eq_ok_iff] at hbase
    refine ⟨base, bits, ⟨digits, ?_, hdigits, hshort, hnumber, by omega⟩, (Except.ok.inj h).symm⟩
    rw [(cutFirst_eq_some_iff.1 hcut).1, hbase]
  · rintro ⟨base, bits, ⟨digits, htext, hdigits, hshort, hnumber, hle⟩, rfl⟩
    have hcut : cutFirst '/' text.toList = some (base.toChars, digits) :=
      cutFirst_eq_some_iff.2 ⟨htext, IPv4.slash_not_mem_toChars base⟩
    have hbits : readNumber digits = .ok bits :=
      (readNumber_eq_ok_iff hdigits).2 ⟨hshort, hnumber⟩
    simp only [parse, hcut, hdigits, hbits, IPv4.parseChars_toChars, Bool.not_true,
      Bool.false_eq_true, if_false, if_neg (Nat.not_lt.2 hle)]

/-! ### The stretch of a block -/

theorem toNat_lt_two_pow (ip : IPv4) : ip.toNat < 2 ^ addressBits := by
  have := ip.a.toNat_lt
  have := ip.b.toNat_lt
  have := ip.c.toNat_lt
  have := ip.d.toNat_lt
  simp only [IPv4.toNat, addressBits]
  omega

/-- Masking an address gives the start of its stretch. -/
theorem and_maskOf {x bits : Nat} (hx : x < 2 ^ addressBits) :
    x &&& maskOf bits = start x bits := by
  refine Nat.eq_of_testBit_eq fun i ↦ ?_
  simp only [maskOf, allOnes, start, size, Nat.pow_eq, Nat.testBit_and, Nat.testBit_shiftLeft,
    Nat.testBit_two_pow_sub_one, Nat.testBit_two_pow_mul, Nat.testBit_div_two_pow]
  by_cases hlow : i < addressBits
  · by_cases hhigh : addressBits - bits ≤ i
    · have : i - (addressBits - bits) < addressBits := by omega
      simp [hlow, hhigh, this, Nat.sub_add_cancel hhigh]
    · simp [hhigh]
  · have hbit : x.testBit i = false :=
      Nat.testBit_lt_two_pow (Nat.lt_of_lt_of_le hx (Nat.pow_le_pow_right (by omega) (by omega)))
    by_cases hhigh : addressBits - bits ≤ i
    · simp [hbit, Nat.sub_add_cancel hhigh]
    · simp [hbit, hhigh]

theorem size_pos (bits : Nat) : 0 < size bits :=
  Nat.pow_pos (by omega)

/-- Two addresses have one start exactly when one lies in the stretch of the other. -/
theorem start_eq_start_iff {x base bits : Nat} :
    start x bits = start base bits ↔ InBlock base bits x := by
  have hsize := size_pos bits
  rw [InBlock, start, start, Nat.mul_left_cancel_iff hsize]
  constructor
  · intro h
    rw [← h]
    exact ⟨Nat.mul_div_le x _, Nat.lt_mul_div_succ x hsize⟩
  · rintro ⟨hlo, hhi⟩
    refine Nat.div_eq_of_lt_le ?_ ?_
    · rwa [Nat.mul_comm]
    · rwa [Nat.succ_mul, Nat.mul_comm]

/-- **The mask decides membership in the stretch.** -/
theorem contains_around_iff {base ip : IPv4} {bits : Nat} :
    (around base bits).contains ip = true ↔ InBlock base.toNat bits ip.toNat := by
  rw [contains, around, beq_iff_eq, and_maskOf (toNat_lt_two_pow ip),
    and_maskOf (toNat_lt_two_pow base), start_eq_start_iff]

end SocksRouter.Block
