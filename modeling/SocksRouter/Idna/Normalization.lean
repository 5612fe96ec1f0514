/-!
# Compatibility normalisation

The composed compatibility form of a text. Every character is decomposed fully, the marks behind
each starter are put into the order of their classes, and each starter is composed with the marks
that nothing blocks. Hangul syllables are decomposed and composed by arithmetic; what the other
characters do is looked up in `CharacterData`.
-/

namespace SocksRouter.Idna

/-- What normalisation looks up about characters. -/
structure CharacterData where
  /-- The full decomposition of a code point, if it has one. -/
  decomposition? : Nat → Option (List Nat)
  /-- What two code points compose into, if anything. -/
  composition? : Nat → Nat → Option Nat
  /-- The combining class of a code point; starters have class zero. -/
  combiningClass : Nat → Nat

/-! ### Hangul -/

/-- The first Hangul syllable. -/
def hangulBase : Nat := 0xAC00

/-- The number of Hangul syllables. -/
def hangulCount : Nat := 11172

/-- The parts of a Hangul syllable: a leading consonant, a vowel, perhaps a trailing consonant. -/
def hangulParts (n : Nat) : List Nat :=
  let i := n - hangulBase
  let parts := [0x1100 + i / 588, 0x1161 + i % 588 / 28]
  if i % 28 = 0 then parts else parts ++ [0x11A7 + i % 28]

/-- Whether a character is a leading consonant. -/
def isHangulLead (c : Char) : Bool :=
  0x1100 ≤ c.toNat ∧ c.toNat < 0x1113

/-- Whether a character is a vowel. -/
def isHangulVowel (c : Char) : Bool :=
  0x1161 ≤ c.toNat ∧ c.toNat < 0x1176

/-- Whether a character is a trailing consonant. -/
def isHangulTail (c : Char) : Bool :=
  0x11A7 < c.toNat ∧ c.toNat < 0x11C3

/-- The syllable of a leading consonant and a vowel. -/
def hangulSyllable (lead vowel : Char) : Nat :=
  hangulBase + ((lead.toNat - 0x1100) * 21 + (vowel.toNat - 0x1161)) * 28

namespace CharacterData

variable (data : CharacterData)

/-- The combining class of a character. -/
def classOf (c : Char) : Nat :=
  data.combiningClass c.toNat

/-! ### Decomposition -/

/-- The full decomposition of a character. -/
def decompose (c : Char) : List Char :=
  let n := c.toNat
  if hangulBase ≤ n ∧ n < hangulBase + hangulCount then (hangulParts n).map Char.ofNat
  else match data.decomposition? n with
    | some parts => parts.map Char.ofNat
    | none => [c]

/-- Adds a character behind others, which are given latest first: a mark moves in front of the marks
of higher classes. -/
def insertMark (c : Char) : List Char → List Char
  | [] => [c]
  | p :: rest =>
    if data.classOf c ≠ 0 ∧ data.classOf c < data.classOf p then p :: insertMark c rest
    else c :: p :: rest

/-- The text with the marks behind every starter in the order of their classes. -/
def orderMarks (s : List Char) : List Char :=
  (s.foldl (fun done c ↦ data.insertMark c done) []).reverse

/-! ### Composition -/

/-- What two characters compose into. -/
def composePair? (first second : Char) : Option Char :=
  (data.composition? first.toNat second.toNat).map Char.ofNat

/-- Composes a character with what follows it. `blocking` is the highest class of the marks that
have been passed, zero if there are none. Gives the composed character and what is left. -/
def absorb (base : Char) (blocking : Nat) : List Char → Char × List Char
  | [] => (base, [])
  | c :: rest =>
    let k := data.classOf c
    if blocking ≠ 0 ∧ k = 0 then (base, c :: rest)
    else if blocking ≠ 0 ∧ k ≤ blocking then
      let (whole, left) := absorb base blocking rest
      (whole, c :: left)
    else match data.composePair? base c with
      | some whole => absorb whole blocking rest
      | none =>
        if k = 0 then (base, c :: rest)
        else
          let (whole, left) := absorb base k rest
          (whole, c :: left)

theorem length_absorb_le (base : Char) (blocking : Nat) (s : List Char) :
    (data.absorb base blocking s).2.length ≤ s.length := by
  fun_induction absorb data base blocking s with
  | case1 | case2 | case5 => exact Nat.le_refl _
  | case3 base blocking c rest k hstart hbelow whole left hrest ih
  | case6 base blocking c rest k hstart hbelow hnone hmark whole left hrest ih =>
    rw [hrest] at ih
    exact Nat.succ_le_succ ih
  | case4 base blocking c rest k hstart hbelow whole hpair ih =>
    exact Nat.le_succ_of_le ih

/-- Composes a decomposed text. -/
def compose : List Char → List Char
  | [] => []
  | [c] => [c]
  | c :: v :: rest =>
    if isHangulLead c && isHangulVowel v then
      match rest with
      | t :: more =>
        if isHangulTail t then
          Char.ofNat (hangulSyllable c v + (t.toNat - 0x11A7)) :: compose more
        else Char.ofNat (hangulSyllable c v) :: compose (t :: more)
      | [] => [Char.ofNat (hangulSyllable c v)]
    else
      (data.absorb c 0 (v :: rest)).1 :: compose (data.absorb c 0 (v :: rest)).2
termination_by s => s.length
decreasing_by
  · simp only [List.length_cons]
    omega
  · simp only [List.length_cons]
    omega
  · have h := data.length_absorb_le c 0 (v :: rest)
    simp only [List.length_cons] at h ⊢
    omega

/-- The composed compatibility form of a text. -/
def normalize (s : List Char) : List Char :=
  data.compose (data.orderMarks (s.flatMap data.decompose))

end CharacterData

end SocksRouter.Idna
