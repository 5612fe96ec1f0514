import Mathlib.Data.List.Basic
import SocksRouter.Proofs.Text.Lowercase
import SocksRouter.Text.Utf8

/-!
# UTF-8, read and written

Bytes are read as a text exactly if they are what writing that text gives
(`decodeUtf8_eq_ok_iff`). So bytes are refused if and only if they spell no text at all, and no text
is spelled in two ways.

The characters of several bytes carry the statement. A first byte says how many bytes follow and
narrows down the second one; this leaves out the longer spellings, the surrogates and what lies
beyond the last code point (`exists_utf8Lead_iff`). What is left is arithmetic with the digits of a
code point to the base 64, one length at a time (`completes_iff`).
-/

namespace SocksRouter.Text

variable {b x y z lo hi : UInt8} {count acc n start : Nat} {bytes rest tail : List UInt8} {c : Char}
  {s : List Char}

/-! ### The bytes of one character -/

/-- The characters of one byte are those below 0x80. -/
theorem encodeChar_eq_cons_iff_of_lt (hb : b < 0x80) :
    String.utf8EncodeChar c = b :: tail ↔ tail = [] ∧ c.toNat = b.toNat := by
  have hc : c.val.toNat = c.toNat := rfl
  have hb : b.toNat < 0x80 := hb
  rw [String.utf8EncodeChar.eq_1, hc]
  split_ifs
  · rw [List.cons_eq_cons, ← UInt8.toNat_inj,
      UInt8.toNat_ofNat_of_lt' (show c.toNat < 256 by omega), and_comm, eq_comm]
  all_goals simp [← UInt8.toNat_inj]
  all_goals omega

theorem toNat_lt_of_encodeChar_eq (h : String.utf8EncodeChar c = [b]) : b.toNat < 0x80 := by
  rw [String.utf8EncodeChar.eq_1] at h
  split_ifs at h
  · rw [← (List.cons.inj h).1, UInt8.toNat_ofNat_of_lt' (show c.val.toNat < 256 by omega)]
    omega
  all_goals simp at h

theorem encodeChar_eq_two_iff :
    n.isValidChar ∧ String.utf8EncodeChar (Char.ofNat n) = [b, x] ↔
      n.isValidChar ∧ 0x80 ≤ n ∧ n < 0x800 ∧
        b.toNat = n / 64 + 0xC0 ∧ x.toNat = n % 64 + 0x80 := by
  refine and_congr_right fun hn ↦ ?_
  have hc : (Char.ofNat n).val.toNat = n := toNat_ofNat hn
  rw [String.utf8EncodeChar.eq_1, hc]
  split_ifs
  all_goals simp [← UInt8.toNat_inj]
  all_goals omega

theorem encodeChar_eq_three_iff :
    n.isValidChar ∧ String.utf8EncodeChar (Char.ofNat n) = [b, x, y] ↔
      n.isValidChar ∧ 0x800 ≤ n ∧ n < 0x10000 ∧
        b.toNat = n / 4096 + 0xE0 ∧ x.toNat = n / 64 % 64 + 0x80 ∧ y.toNat = n % 64 + 0x80 := by
  refine and_congr_right fun hn ↦ ?_
  have hc : (Char.ofNat n).val.toNat = n := toNat_ofNat hn
  rw [String.utf8EncodeChar.eq_1, hc]
  split_ifs
  all_goals simp [← UInt8.toNat_inj]
  all_goals omega

theorem encodeChar_eq_four_iff :
    n.isValidChar ∧ String.utf8EncodeChar (Char.ofNat n) = [b, x, y, z] ↔
      n.isValidChar ∧ 0x10000 ≤ n ∧
        b.toNat = n / 262144 + 0xF0 ∧ x.toNat = n / 4096 % 64 + 0x80 ∧
        y.toNat = n / 64 % 64 + 0x80 ∧ z.toNat = n % 64 + 0x80 := by
  refine and_congr_right fun hn ↦ ?_
  have hc : (Char.ofNat n).val.toNat = n := toNat_ofNat hn
  rw [String.utf8EncodeChar.eq_1, hc]
  split_ifs
  all_goals simp [← UInt8.toNat_inj]
  all_goals omega

theorem encodeChar_ne_five {w : UInt8} :
    String.utf8EncodeChar c ≠ b :: x :: y :: z :: w :: tail := by
  intro h
  have hlength := congrArg List.length h
  rw [String.length_utf8EncodeChar] at hlength
  have := c.utf8Size_le_four
  simp only [List.length_cons] at hlength
  omega

/-! ### What a first byte asks for -/

/-- **What a second byte tells about the first one**: how many bytes there are in all, and that no
shorter spelling, no surrogate and nothing beyond the last code point is begun. -/
theorem exists_utf8Lead_iff :
    (∃ lo hi, utf8Lead b = some (count, lo, hi) ∧ lo ≤ x ∧ x ≤ hi) ↔
      0x80 ≤ x.toNat ∧ x.toNat ≤ 0xBF ∧
        (count = 1 ∧ 0xC2 ≤ b.toNat ∧ b.toNat < 0xE0 ∨
          count = 2 ∧ 0xE0 ≤ b.toNat ∧ b.toNat < 0xF0 ∧
            (b.toNat = 0xE0 → 0xA0 ≤ x.toNat) ∧ (b.toNat = 0xED → x.toNat ≤ 0x9F) ∨
          count = 3 ∧ 0xF0 ≤ b.toNat ∧ b.toNat < 0xF5 ∧
            (b.toNat = 0xF0 → 0x90 ≤ x.toNat) ∧ (b.toNat = 0xF4 → x.toNat ≤ 0x8F)) := by
  unfold utf8Lead
  simp only [UInt8.lt_iff_toNat_lt, UInt8.le_iff_toNat_le, ← UInt8.toNat_inj, UInt8.reduceToNat]
  split_ifs
  all_goals simp
  all_goals omega

theorem utf8Lead_ne_zero : utf8Lead b ≠ some (0, lo, hi) := by
  unfold utf8Lead
  split_ifs
  all_goals simp

theorem utf8LeadBits_one : utf8LeadBits 1 b = b.toNat % 32 := rfl

theorem utf8LeadBits_two : utf8LeadBits 2 b = b.toNat % 16 := rfl

theorem utf8LeadBits_three : utf8LeadBits 3 b = b.toNat % 8 := rfl

theorem utf8Tail_cons_eq_ok_iff :
    utf8Tail (count + 1) lo hi acc (x :: rest) = .ok n ↔
      (lo ≤ x ∧ x ≤ hi) ∧ utf8Tail count 0x80 0xBF (64 * acc + (x.toNat - 0x80)) rest = .ok n := by
  rw [utf8Tail]
  split
  · rename_i hx
    rw [and_iff_right hx]
    split
    · rename_i hm
      rw [hm]
    · rename_i hm
      rw [hm]
      simp
  · rename_i hx
    simp [hx]

/-- The bytes behind a first one are taken as far as they are counted, and no other is looked at. -/
theorem utf8Tail_eq_ok_iff_take :
    utf8Tail count lo hi acc bytes = .ok n ↔
      count ≤ bytes.length ∧ utf8Tail count lo hi acc (bytes.take count) = .ok n := by
  induction count generalizing lo hi acc bytes with
  | zero => simp [utf8Tail]
  | succ count ih =>
    rcases bytes with - | ⟨x, rest⟩
    · simp [utf8Tail]
    · rw [List.take_succ_cons, utf8Tail_cons_eq_ok_iff, utf8Tail_cons_eq_ok_iff, ih,
        List.length_cons, Nat.add_le_add_iff_right]
      exact and_left_comm

/-- The bytes `tail` are what the first byte `b` asks for, and spell the code point `n` with it. -/
def Completes (b : UInt8) (tail : List UInt8) (n : Nat) : Prop :=
  ∃ lo hi, utf8Lead b = some (tail.length, lo, hi) ∧
    utf8Tail tail.length lo hi (utf8LeadBits tail.length b) tail = .ok n

theorem completes_cons_iff :
    Completes b (x :: rest) n ↔
      (∃ lo hi, utf8Lead b = some (rest.length + 1, lo, hi) ∧ lo ≤ x ∧ x ≤ hi) ∧
        utf8Tail rest.length 0x80 0xBF
          (64 * utf8LeadBits (rest.length + 1) b + (x.toNat - 0x80)) rest = .ok n := by
  simp only [Completes, List.length_cons, utf8Tail_cons_eq_ok_iff, ← and_assoc]
  simp only [exists_and_right]

/-- **What completes a first byte is what writing the character puts behind it.** -/
theorem completes_iff (hb : ¬b < 0x80) :
    Completes b tail n ↔ n.isValidChar ∧ String.utf8EncodeChar (Char.ofNat n) = b :: tail := by
  have hb : ¬b.toNat < 0x80 := hb
  match tail with
  | [] =>
    refine iff_of_false ?_ ?_
    · rintro ⟨lo, hi, hlead, -⟩
      exact utf8Lead_ne_zero hlead
    · rintro ⟨-, hchar⟩
      exact hb (toNat_lt_of_encodeChar_eq hchar)
  | [x] =>
    rw [completes_cons_iff, exists_utf8Lead_iff, encodeChar_eq_two_iff]
    simp only [List.length_nil, Nat.zero_add, utf8Tail, utf8LeadBits_one, Except.ok.injEq,
      Nat.isValidChar, true_and]
    constructor <;> omega
  | [x, y] =>
    rw [completes_cons_iff, exists_utf8Lead_iff, encodeChar_eq_three_iff]
    simp only [List.length_cons, List.length_nil, Nat.zero_add, Nat.reduceAdd,
      utf8Tail_cons_eq_ok_iff, utf8LeadBits_two]
    simp only [utf8Tail, Except.ok.injEq, UInt8.le_iff_toNat_le, UInt8.reduceToNat,
      Nat.isValidChar, true_and]
    constructor <;> omega
  | [x, y, z] =>
    rw [completes_cons_iff, exists_utf8Lead_iff, encodeChar_eq_four_iff]
    simp only [List.length_cons, List.length_nil, Nat.zero_add, Nat.reduceAdd,
      utf8Tail_cons_eq_ok_iff, utf8LeadBits_three]
    simp only [utf8Tail, Except.ok.injEq, UInt8.le_iff_toNat_le, UInt8.reduceToNat,
      Nat.isValidChar, true_and]
    constructor <;> omega
  | x :: y :: z :: w :: more =>
    rw [completes_cons_iff, exists_utf8Lead_iff]
    simp only [encodeChar_ne_five, and_false, iff_false, List.length_cons]
    omega

/-! ### Texts -/

theorem decodeFrom_skip (start skip : Nat) (bytes : List UInt8) :
    decodeFrom start skip bytes = decodeFrom (start + skip) 0 (bytes.drop skip) := by
  induction skip generalizing start bytes with
  | zero => rfl
  | succ skip ih =>
    rcases bytes with - | ⟨b, rest⟩
    · rfl
    · rw [decodeFrom, ih, List.drop_succ_cons, Nat.add_right_comm, Nat.add_assoc]

theorem map_cons_eq_ok_iff {d : Char} {outcome : Except Utf8Error (List Char)} :
    outcome.map (d :: ·) = .ok s ↔ ∃ more, outcome = .ok more ∧ s = d :: more := by
  cases outcome with
  | error cause => simp [Except.map]
  | ok more => simp [Except.map, eq_comm]

/-- A character of one byte is read, and then the others. -/
theorem decodeFrom_low (hb : b < 0x80) :
    decodeFrom start 0 (b :: rest) = .ok s ↔
      ∃ more, decodeFrom (start + 1) 0 rest = .ok more ∧ s = Char.ofNat b.toNat :: more := by
  rw [decodeFrom, if_pos hb, map_cons_eq_ok_iff]

/-- A character of several bytes is read, and then the others. -/
theorem decodeFrom_high (hb : ¬b < 0x80) :
    decodeFrom start 0 (b :: rest) = .ok s ↔
      ∃ tail bytes n, rest = tail ++ bytes ∧ Completes b tail n ∧
        ∃ more, decodeFrom (start + (tail.length + 1)) 0 bytes = .ok more ∧
          s = Char.ofNat n :: more := by
  rw [decodeFrom, if_neg hb]
  constructor
  · intro h
    split at h
    · contradiction
    rename_i count lo hi hlead
    split at h
    · contradiction
    rename_i n htail
    obtain ⟨hlength, htail⟩ := utf8Tail_eq_ok_iff_take.1 htail
    have htake : (rest.take count).length = count := List.length_take_of_le hlength
    obtain ⟨more, hmore, rfl⟩ := map_cons_eq_ok_iff.1 h
    rw [decodeFrom_skip] at hmore
    refine ⟨rest.take count, rest.drop count, n, (List.take_append_drop count rest).symm,
      ⟨lo, hi, ?_, ?_⟩, more, ?_, rfl⟩
    · rwa [htake]
    · rwa [htake]
    · rwa [htake, Nat.add_comm count, ← Nat.add_assoc]
  · rintro ⟨tail, bytes, n, rfl, ⟨lo, hi, hlead, htail⟩, more, hmore, rfl⟩
    have htail' : utf8Tail tail.length lo hi (utf8LeadBits tail.length b) (tail ++ bytes) = .ok n :=
      utf8Tail_eq_ok_iff_take.2 ⟨by simp, by rwa [List.take_left]⟩
    simp only [hlead, htail']
    rw [map_cons_eq_ok_iff, decodeFrom_skip, List.drop_left, Nat.add_assoc, Nat.add_comm 1]
    exact ⟨more, hmore, rfl⟩

/-- **A text is read character by character**: the bytes of the first one stand in front. -/
theorem decodeFrom_cons_eq_ok_iff :
    decodeFrom start 0 (b :: rest) = .ok s ↔
      ∃ c more bytes, b :: rest = String.utf8EncodeChar c ++ bytes ∧ s = c :: more ∧
        decodeFrom (start + (String.utf8EncodeChar c).length) 0 bytes = .ok more := by
  -- The bytes of a character start with `b` if they stand in front of the others.
  have hfirst : ∀ {c : Char} {bytes : List UInt8}, b :: rest = String.utf8EncodeChar c ++ bytes →
      ∃ tail, String.utf8EncodeChar c = b :: tail ∧ rest = tail ++ bytes := by
    intro c bytes hbytes
    obtain ⟨b', tail, hchar⟩ := List.exists_cons_of_ne_nil (String.utf8EncodeChar_ne_nil (c := c))
    rw [hchar] at hbytes
    obtain ⟨rfl, rfl⟩ := List.cons.inj hbytes
    exact ⟨tail, hchar, rfl⟩
  by_cases hb : b < 0x80
  · rw [decodeFrom_low hb]
    constructor
    · rintro ⟨more, hmore, rfl⟩
      have hvalid : b.toNat.isValidChar := .inl (Nat.lt_trans hb (by decide))
      have hchar := (encodeChar_eq_cons_iff_of_lt hb).2 ⟨rfl, toNat_ofNat hvalid⟩
      exact ⟨_, more, rest, by rw [hchar]; rfl, rfl, by rwa [hchar]⟩
    · rintro ⟨c, more, bytes, hbytes, rfl, hmore⟩
      obtain ⟨tail, hchar, rfl⟩ := hfirst hbytes
      rw [hchar] at hmore
      obtain ⟨rfl, hc⟩ := (encodeChar_eq_cons_iff_of_lt hb).1 hchar
      exact ⟨more, hmore, by rw [← hc, Char.ofNat_toNat]⟩
  · rw [decodeFrom_high hb]
    constructor
    · rintro ⟨tail, bytes, n, rfl, htail, more, hmore, rfl⟩
      obtain ⟨-, hchar⟩ := (completes_iff hb).1 htail
      exact ⟨_, more, bytes, by rw [hchar]; rfl, rfl, by rwa [hchar]⟩
    · rintro ⟨c, more, bytes, hbytes, rfl, hmore⟩
      obtain ⟨tail, hchar, rfl⟩ := hfirst hbytes
      rw [hchar] at hmore
      refine ⟨tail, bytes, c.toNat, rfl, (completes_iff hb).2 ⟨c.valid, ?_⟩, more, hmore, ?_⟩
      · rwa [Char.ofNat_toNat]
      · rw [Char.ofNat_toNat]

theorem decodeFrom_eq_ok_iff : decodeFrom start 0 bytes = .ok s ↔ bytes = encodeUtf8 s := by
  induction hlength : bytes.length using Nat.strongRecOn generalizing bytes start s with
  | _ length ih =>
    subst hlength
    rcases bytes with - | ⟨b, rest⟩
    · cases s <;> simp [decodeFrom, encodeUtf8]
    rw [decodeFrom_cons_eq_ok_iff]
    -- The bytes behind the first character are fewer.
    have hfewer : ∀ {c : Char} {bytes : List UInt8}, b :: rest = String.utf8EncodeChar c ++ bytes →
        bytes.length < (b :: rest).length := by
      intro c bytes hbytes
      rw [hbytes, List.length_append, String.length_utf8EncodeChar]
      have := c.utf8Size_pos
      omega
    constructor
    · rintro ⟨c, more, bytes, hbytes, rfl, hmore⟩
      rw [hbytes, (ih _ (hfewer hbytes) rfl).1 hmore, encodeUtf8, encodeUtf8, List.flatMap_cons]
    · intro hbytes
      rcases s with - | ⟨c, more⟩
      · contradiction
      · exact ⟨c, more, encodeUtf8 more, hbytes, rfl, (ih _ (hfewer hbytes) rfl).2 rfl⟩

/-- **Bytes are read as a text exactly if writing the text gives them.** -/
theorem decodeUtf8_eq_ok_iff : decodeUtf8 bytes = .ok s ↔ bytes = encodeUtf8 s :=
  decodeFrom_eq_ok_iff

end SocksRouter.Text
