import Mathlib.Data.Setoid.Partition
import SocksRouter.Proofs.Address.Block

/-!
# The blocks of one length

Matching an address with a block is membership in a stretch of addresses (`IsText.matchText_eq`): it
fails where one of the two texts is refused, and nowhere else. So a block is a set of addresses
(`members`), and what is known of stretches is known of blocks: bits of the base behind the first
ones make no difference, no bits give all addresses, and all bits a single one.

That the blocks of one length cut the address space to pieces (`isPartition_blocksOf`) needs no look
at two of them: they are the classes of the addresses with the same start.
-/

namespace SocksRouter

namespace IPv4

/-- An address is given by its number. -/
theorem toNat_inj {ip other : IPv4} : ip.toNat = other.toNat ↔ ip = other := by
  refine ⟨fun h ↦ ?_, congrArg toNat⟩
  obtain ⟨a, b, c, d⟩ := ip
  obtain ⟨a', b', c', d'⟩ := other
  simp only [toNat] at h
  have := b.toNat_lt
  have := c.toNat_lt
  have := d.toNat_lt
  have := b'.toNat_lt
  have := c'.toNat_lt
  have := d'.toNat_lt
  simp only [mk.injEq, ← UInt8.toNat_inj]
  omega

end IPv4

namespace Block

open Text

variable {cidr : String} {base : IPv4} {bits : Nat}

/-! ### Matching -/

/-- A text that is no block is refused, whatever it is matched with. -/
theorem exists_matchText_error (h : ¬∃ base bits, IsText cidr base bits) (text : String) :
    ∃ cause, matchText text cidr = .error cause := by
  cases hparse : parse cidr with
  | error cause => exact ⟨cause, by rw [matchText, hparse]⟩
  | ok block =>
    obtain ⟨base, bits, htext, -⟩ := parse_eq_ok_iff.1 hparse
    exact absurd ⟨base, bits, htext⟩ h

namespace IsText

theorem parse_eq (h : IsText cidr base bits) : parse cidr = .ok (around base bits) :=
  parse_eq_ok_iff.2 ⟨base, bits, h, rfl⟩

/-- **Matching an address is membership in the stretch.** -/
theorem matchText_eq (h : IsText cidr base bits) (ip : IPv4) :
    matchText ip.toString cidr = .ok (decide (InBlock base.toNat bits ip.toNat)) := by
  rw [matchText, h.parse_eq, ip.parse_toString]
  exact congrArg Except.ok (Bool.eq_iff_iff.2 (contains_around_iff.trans decide_eq_true_iff.symm))

/-- What is no address is refused. -/
theorem exists_matchText_error (h : IsText cidr base bits) {text : String}
    (htext : ∀ ip : IPv4, text ≠ ip.toString) : ∃ cause, matchText text cidr = .error cause := by
  rw [matchText, h.parse_eq]
  cases hparse : IPv4.parse text with
  | error cause => exact ⟨.base cause, rfl⟩
  | ok ip =>
    have hsome : IPv4.parse? text = some ip := by rw [IPv4.parse?, hparse]; rfl
    exact absurd (IPv4.parse?_eq_some_iff.1 hsome) (htext ip)

end IsText

/-! ### Blocks as sets -/

/-- The addresses that match the block written `cidr`. -/
def members (cidr : String) : Set IPv4 :=
  {ip | matchText ip.toString cidr = .ok true}

/-- The blocks of a number of bits. -/
def blocksOf (bits : Nat) : Set (Set IPv4) :=
  {block | ∃ cidr base, IsText cidr base bits ∧ members cidr = block}

/-- The members of a block are the addresses with the start of its base. -/
theorem IsText.mem_members_iff (h : IsText cidr base bits) {ip : IPv4} :
    ip ∈ members cidr ↔ start ip.toNat bits = start base.toNat bits := by
  rw [start_eq_start_iff, members, Set.mem_ofPred_eq, h.matchText_eq, Except.ok.injEq,
    decide_eq_true_iff]

/-- Bits of the base behind the first ones make no difference. -/
theorem IsText.members_congr (h : IsText cidr base bits) {cidr' : String} {base' : IPv4}
    (h' : IsText cidr' base' bits) (hbase : base'.toNat / size bits = base.toNat / size bits) :
    members cidr' = members cidr := by
  ext ip
  rw [h'.mem_members_iff, h.mem_members_iff, start, start, start, hbase]

/-- Without any bits that are shared, every address is a member. -/
theorem IsText.members_eq_univ (h : IsText cidr base 0) : members cidr = Set.univ := by
  have hstart : ∀ ip : IPv4, start ip.toNat 0 = 0 := by
    intro ip
    have hlt : ip.toNat < size 0 := toNat_lt_two_pow ip
    rw [start, Nat.div_eq_of_lt hlt, Nat.mul_zero]
  ext ip
  simp only [h.mem_members_iff, hstart, Set.mem_univ]

/-- When all bits are shared, the base is the only member. -/
theorem IsText.members_eq_singleton (h : IsText cidr base addressBits) :
    members cidr = {base} := by
  have hstart : ∀ ip : IPv4, start ip.toNat addressBits = ip.toNat := by
    intro ip
    have hone : size addressBits = 1 := rfl
    rw [start, hone, Nat.div_one, Nat.one_mul]
  ext ip
  rw [h.mem_members_iff, hstart, hstart, IPv4.toNat_inj, Set.mem_singleton_iff]

/-! ### The partition -/

/-- Every address is the base of a block of every length. -/
theorem exists_isText (base : IPv4) (hbits : bits ≤ addressBits) :
    ∃ cidr, IsText cidr base bits := by
  have hshort : (Nat.toDigits 10 bits).length ≤ maxDigits :=
    length_toDigits_le_maxDigits (hbits.trans_lt (by decide))
  exact ⟨String.ofList (base.toChars ++ '/' :: Nat.toDigits 10 bits), Nat.toDigits 10 bits,
    String.toList_ofList, isAsciiDigitString_toDigits bits, hshort, spelledNumber_toDigits bits,
    hbits⟩

/-- **The blocks of one length are a partition of the addresses.** -/
theorem isPartition_blocksOf (hbits : bits ≤ addressBits) : Setoid.IsPartition (blocksOf bits) := by
  let sameStart : Setoid IPv4 := Setoid.ker fun ip ↦ start ip.toNat bits
  have hclass : ∀ {cidr base}, IsText cidr base bits →
      members cidr = {ip | sameStart ip base} := fun h ↦ Set.ext fun ip ↦ h.mem_members_iff
  have hclasses : blocksOf bits = sameStart.classes := by
    ext block
    constructor
    · rintro ⟨cidr, base, htext, rfl⟩
      exact ⟨base, hclass htext⟩
    · rintro ⟨base, rfl⟩
      obtain ⟨cidr, htext⟩ := exists_isText base hbits
      exact ⟨cidr, base, htext, hclass htext⟩
  rw [hclasses]
  exact Setoid.isPartition_classes sameStart

/-- **A block matches the addresses of its stretch.** A text is read as a block if it is an address,
a slash and a number of bits, and is refused otherwise, whatever it is matched with. A block matches
an address exactly if that lies in the stretch of its base, and refuses what is no address. So bits
of the base behind the first ones make no difference, no bits match all addresses, all bits match
the base alone, and the blocks of one length are a partition of the addresses. -/
theorem matchText_is_membership (cidr : String) :
    ((∃ block, parse cidr = .ok block) ↔ ∃ base bits, IsText cidr base bits) ∧
      ((¬∃ base bits, IsText cidr base bits) →
        ∀ text, ∃ cause, matchText text cidr = .error cause) ∧
      ∀ base bits, IsText cidr base bits →
        (∀ ip : IPv4,
          matchText ip.toString cidr = .ok (decide (InBlock base.toNat bits ip.toNat))) ∧
        (∀ text : String, (∀ ip : IPv4, text ≠ ip.toString) →
          ∃ cause, matchText text cidr = .error cause) ∧
        (∀ cidr' base', IsText cidr' base' bits →
          base'.toNat / size bits = base.toNat / size bits → members cidr' = members cidr) ∧
        (bits = 0 → members cidr = Set.univ) ∧
        (bits = addressBits → members cidr = {base}) ∧
        members cidr ∈ blocksOf bits ∧ Setoid.IsPartition (blocksOf bits) := by
  refine ⟨?_, exists_matchText_error, fun base bits h ↦ ⟨h.matchText_eq,
    fun text htext ↦ h.exists_matchText_error htext, fun cidr' base' h' hbase ↦
      h.members_congr h' hbase, ?_, ?_, ⟨cidr, base, h, rfl⟩, ?_⟩⟩
  · constructor
    · rintro ⟨block, hblock⟩
      obtain ⟨base, bits, htext, -⟩ := parse_eq_ok_iff.1 hblock
      exact ⟨base, bits, htext⟩
    · rintro ⟨base, bits, htext⟩
      exact ⟨around base bits, htext.parse_eq⟩
  · rintro rfl
    exact h.members_eq_univ
  · rintro rfl
    exact h.members_eq_singleton
  · obtain ⟨digits, -, -, -, -, hbits⟩ := h
    exact isPartition_blocksOf hbits

/-- The host bits of the base are ignored and the leading zeros of the length are allowed. -/
theorem matchText_of_host_bits :
    IsText "10.1.2.3/008" ⟨10, 1, 2, 3⟩ 8 ∧
      matchText "10.255.0.9" "10.1.2.3/008" = .ok true ∧
      matchText "11.0.0.0" "10.1.2.3/008" = .ok false ∧
      Setoid.IsPartition (blocksOf 8) := by
  have htext : IsText "10.1.2.3/008" ⟨10, 1, 2, 3⟩ 8 :=
    ⟨"008".toList, by decide +kernel, by decide +kernel, by decide +kernel, by decide +kernel,
      by decide +kernel⟩
  obtain ⟨-, -, hmatch⟩ := matchText_is_membership "10.1.2.3/008"
  obtain ⟨hin, -, -, -, -, -, hpartition⟩ := hmatch _ 8 htext
  have hinside : matchText "10.255.0.9" "10.1.2.3/008" = .ok true := by
    rw [show "10.255.0.9" = IPv4.toString ⟨10, 255, 0, 9⟩ by decide +kernel, hin]
    decide +kernel
  have houtside : matchText "11.0.0.0" "10.1.2.3/008" = .ok false := by
    rw [show "11.0.0.0" = IPv4.toString ⟨11, 0, 0, 0⟩ by decide +kernel, hin]
    decide +kernel
  exact ⟨htext, hinside, houtside, hpartition⟩

end Block

end SocksRouter
