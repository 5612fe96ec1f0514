import Mathlib.Data.List.Basic
import SocksRouter.Address.IPv4
import SocksRouter.Proofs.Outcome
import SocksRouter.Proofs.Text.Digits
import SocksRouter.Proofs.Text.Fields

/-!
# One text for every address

Reading accepts exactly what writing gives: a text is read as an address if and only if it is the
dotted quad of that address (`parse?_eq_some_iff`). So leading zeros, missing octets and signs are
refused, two texts never stand for one address, and no text stands for two
(`existsUnique_toString`).

The octet is the heart of it. That the text of an octet reads back is a check of its 256 values;
that nothing else reads (`eq_octetDigits_of_parseOctet`) goes by the number of digits, of which
there are one, two or three, the first not being zero if there are several.
-/

namespace SocksRouter.IPv4

open Outcome Text

/-! ### Octets -/

theorem parseOctet_octetDigits (v : UInt8) : parseOctet (octetDigits v.toNat) = .ok v := by
  have h : ∀ n < 256, parseOctet (octetDigits n) = .ok (UInt8.ofNat n) := by decide +kernel
  rw [h v.toNat v.toNat_lt, UInt8.ofNat_toNat]

theorem isAsciiDigit_of_mem_octetDigits {n : Nat} (h : n < 256) :
    ∀ c ∈ octetDigits n, isAsciiDigit c = true := by
  have hall : ∀ n < 256, (octetDigits n).all isAsciiDigit = true := by decide +kernel
  exact List.all_eq_true.1 (hall n h)

/-- One to three digits, the first not zero if there are several, are the text of their number. -/
theorem octetDigits_digitsToNat {ds : List Nat} (hne : ds ≠ []) (hlength : ds.length ≤ 3)
    (hdigits : ∀ d ∈ ds, d < 10) (hlead : ds ≠ [0] → ds.head? ≠ some 0) :
    octetDigits (digitsToNat ds) = ds.map Nat.digitChar := by
  match ds, hne, hlength with
  | [x], _, _ =>
    have hx := hdigits x (by simp)
    have hvalue : digitsToNat [x] = x := by simp [digitsToNat]
    rw [hvalue, octetDigits, if_pos hx]
    rfl
  | [x, y], _, _ =>
    have hx := hdigits x (by simp)
    have hy := hdigits y (by simp)
    have hzero : x ≠ 0 := by simpa using hlead (by simp)
    have hvalue : digitsToNat [x, y] = 10 * x + y := by simp [digitsToNat]
    rw [hvalue, octetDigits, if_neg (by omega), if_pos (by omega),
      show (10 * x + y) / 10 = x by omega, show (10 * x + y) % 10 = y by omega]
    rfl
  | [x, y, z], _, _ =>
    have hx := hdigits x (by simp)
    have hy := hdigits y (by simp)
    have hz := hdigits z (by simp)
    have hzero : x ≠ 0 := by simpa using hlead (by simp)
    have hvalue : digitsToNat [x, y, z] = 100 * x + 10 * y + z := by
      simp only [digitsToNat, List.foldl_cons, List.foldl_nil]
      omega
    rw [hvalue, octetDigits, if_neg (by omega), if_neg (by omega),
      show (100 * x + 10 * y + z) / 100 = x by omega,
      show (100 * x + 10 * y + z) / 10 % 10 = y by omega,
      show (100 * x + 10 * y + z) % 10 = z by omega]
    rfl

/-- A text that is read as an octet is the one that the octet is written as. -/
theorem eq_octetDigits_of_parseOctet {s : List Char} {v : UInt8} (h : parseOctet s = .ok v) :
    s = octetDigits v.toNat := by
  rw [parseOctet] at h
  split at h
  · contradiction
  rename_i hempty
  split at h
  · contradiction
  rename_i hall
  split at h
  · contradiction
  rename_i hlength
  split at h
  · contradiction
  rename_i hlead
  dsimp only at h
  split at h
  · contradiction
  rename_i hvalue
  obtain rfl := Except.ok.inj h
  have hdigits : ∀ c ∈ s, isAsciiDigit c = true := by simpa using hall
  have hback : (s.map digitValue).map Nat.digitChar = s := by
    rw [List.map_map]
    exact (List.map_congr_left fun c hc ↦ (digitChar_digitValue (hdigits c hc)).2).trans
      (List.map_id s)
  change ¬digitsToNat (s.map digitValue) > 255 at hvalue
  rw [show (s.map fun c ↦ c.toNat - '0'.toNat) = s.map digitValue from rfl,
    UInt8.toNat_ofNat_of_lt' (by rw [UInt8.size]; omega), octetDigits_digitsToNat, hback]
  · simpa using hempty
  · simpa using hlength
  · simp only [List.mem_map, forall_exists_index, and_imp, forall_apply_eq_imp_iff₂]
    exact fun c hc ↦ (digitChar_digitValue (hdigits c hc)).1
  · intro hne hhead
    rw [List.head?_map, Option.map_eq_some_iff] at hhead
    obtain ⟨c, hc, hzero⟩ := hhead
    have hcZero : c = '0' := by
      rw [← (digitChar_digitValue (hdigits c (List.mem_of_mem_head? hc))).2, hzero]
      rfl
    refine hlead ⟨fun hs ↦ hne ?_, hcZero ▸ hc⟩
    rw [hs]
    rfl

theorem parseOctet_eq_ok_iff {s : List Char} {v : UInt8} :
    parseOctet s = .ok v ↔ s = octetDigits v.toNat :=
  ⟨eq_octetDigits_of_parseOctet, fun h ↦ h ▸ parseOctet_octetDigits v⟩

/-! ### Addresses -/

theorem not_mem_octetDigits {v : UInt8} {c : Char} (h : isAsciiDigit c = false) :
    c ∉ octetDigits v.toNat := by
  intro hmem
  rw [isAsciiDigit_of_mem_octetDigits v.toNat_lt c hmem] at h
  contradiction

theorem intercalate_octets (ip : IPv4) :
    ['.'].intercalate (ip.octets.map fun v ↦ octetDigits v.toNat) = ip.toChars := by
  simp [octets, toChars]

theorem fields_toChars (ip : IPv4) :
    fields (· == '.') ip.toChars = ip.octets.map fun v ↦ octetDigits v.toNat := by
  rw [fields_eq_iff]
  refine ⟨by simp [octets], ?_, intercalate_octets ip⟩
  simp only [List.mem_map, forall_exists_index, and_imp, forall_apply_eq_imp_iff₂]
  exact fun v _ ↦ not_mem_octetDigits (by decide)

theorem slash_not_mem_toChars (ip : IPv4) : '/' ∉ ip.toChars := by
  simp [toChars, not_mem_octetDigits (show isAsciiDigit '/' = false by decide)]

/-- The text of an address is read as that address. -/
theorem parseChars_toChars (ip : IPv4) : parseChars ip.toChars = .ok ip := by
  have hne : ip.toChars ≠ [] := by simp [toChars]
  rw [parseChars, if_neg (slash_not_mem_toChars ip), if_neg (by simpa using hne), fields_toChars]
  simp only [octets, List.map_cons, List.map_nil, parseOctet_octetDigits]
  rfl

/-- **Nothing else is read as an address.** -/
theorem eq_toChars_of_parseChars {s : List Char} {ip : IPv4} (h : parseChars s = .ok ip) :
    s = ip.toChars := by
  rw [parseChars] at h
  split at h
  · contradiction
  split at h
  · contradiction
  split at h
  · rename_i a b c d hfields
    simp only [mapError_eq_ok, bind_eq_ok, pure_eq_ok, parseOctet_eq_ok_iff] at h
    obtain ⟨va, rfl, vb, rfl, vc, rfl, vd, rfl, rfl⟩ := h
    rw [← (fields_eq_iff.1 hfields).2.2]
    exact intercalate_octets ⟨va, vb, vc, vd⟩
  · contradiction

theorem parseChars_eq_ok_iff {s : List Char} {ip : IPv4} :
    parseChars s = .ok ip ↔ s = ip.toChars :=
  ⟨eq_toChars_of_parseChars, fun h ↦ h ▸ parseChars_toChars ip⟩

/-- A text is an address exactly when it is the dotted quad of that address. -/
theorem parse?_eq_some_iff {text : String} {ip : IPv4} :
    parse? text = some ip ↔ text = ip.toString := by
  rw [parse?, toOption_eq_some_iff, parse, parseChars_eq_ok_iff, IPv4.toString,
    ← String.toList_inj, String.toList_ofList]

theorem isLiteral_iff {text : String} :
    isLiteral text = true ↔ ∃ ip : IPv4, text = ip.toString := by
  simp only [isLiteral, Option.isSome_iff_exists, parse?_eq_some_iff]

theorem parse_toString (ip : IPv4) : parse ip.toString = .ok ip := by
  rw [parse, IPv4.toString, String.toList_ofList, parseChars_toChars]

theorem toString_inj {ip other : IPv4} : ip.toString = other.toString ↔ ip = other := by
  refine ⟨fun h ↦ ?_, congrArg IPv4.toString⟩
  have hparse := other.parse_toString
  rw [← h, ip.parse_toString] at hparse
  exact Except.ok.inj hparse

/-- A text that is taken for an address is the text of one address and of no other. -/
theorem existsUnique_toString {text : String} (h : isLiteral text = true) :
    ∃! ip : IPv4, text = ip.toString := by
  obtain ⟨ip, rfl⟩ := isLiteral_iff.1 h
  exact ⟨ip, rfl, fun other hother ↦ toString_inj.1 hother.symm⟩

end SocksRouter.IPv4
