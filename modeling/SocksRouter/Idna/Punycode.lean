/-!
# Punycode

Encoding of a label in ASCII. The ASCII characters of the label come first, followed by a hyphen if
there are any. The others are coded in increasing order of their code points, each by its distance
from the one before, counted in code points and places, as a number of variable length whose digit
thresholds follow a bias.

Each loop has a measure of its own: the distance that is scaled down, and the number whose digits
are written, get smaller.
-/

namespace SocksRouter.Idna.Punycode

/-- A digit of base 36: the letters, then the ten digits. -/
def digitChar (d : Nat) : Char :=
  if d < 26 then Char.ofNat ('a'.toNat + d) else Char.ofNat ('0'.toNat + (d - 26))

/-- The threshold of the digit at position `k`, a multiple of 36. -/
def threshold (k bias : Nat) : Nat :=
  if k ≤ bias then 1 else if bias + 26 ≤ k then 26 else k - bias

theorem one_le_threshold (k bias : Nat) : 1 ≤ threshold k bias := by
  unfold threshold
  split
  · omega
  · split <;> omega

theorem threshold_le (k bias : Nat) : threshold k bias ≤ 26 := by
  unfold threshold
  split
  · omega
  · split <;> omega

/-- Scales a distance down to 455, and counts 36 for every division. -/
def scaleDown (delta count : Nat) : Nat × Nat :=
  if 455 < delta then scaleDown (delta / 35) (count + 36) else (delta, count)
termination_by delta
decreasing_by exact Nat.div_lt_self (by omega) (by omega)

/-- The bias after a distance has been written as the `points`-th character of the label. -/
def adapt (delta points : Nat) (isFirst : Bool) : Nat :=
  let start := if isFirst then delta / 700 else delta / 2
  let (scaled, count) := scaleDown (start + start / points) 0
  count + 36 * scaled / (scaled + 38)

/-- The digits of a number from position `k` on. -/
def digits (q k bias : Nat) : List Char :=
  let t := threshold k bias
  if h : q < t then [digitChar q]
  else digitChar (t + (q - t) % (36 - t)) :: digits ((q - t) / (36 - t)) (k + 36) bias
termination_by q
decreasing_by
  have hlow := one_le_threshold k bias
  have hhigh := threshold_le k bias
  exact Nat.lt_of_le_of_lt (Nat.div_le_self _ _) (by omega)

/-- The state of the encoder: the distance so far, the bias, the number of characters written and
the digits written, latest first. -/
structure Progress where
  /-- The distance since the last character that was written. -/
  delta : Nat
  /-- The bias of the next number. -/
  bias : Nat
  /-- How many characters of the label have been written. -/
  written : Nat
  /-- Whether a number has been written. -/
  started : Bool
  /-- The digits of the numbers so far, latest first. -/
  output : List Char

/-- What passing a character does while the code point `m` is being written. -/
def Progress.pass (m : Nat) (p : Progress) (c : Char) : Progress :=
  if c.toNat < m then { p with delta := p.delta + 1 }
  else if c.toNat = m then
    { delta := 0
      bias := adapt p.delta (p.written + 1) (!p.started)
      written := p.written + 1
      started := true
      output := (digits p.delta 36 p.bias).reverse ++ p.output }
  else p

/-- Writes the code points `points`, which increase, where all below `n` have been written. -/
def writePoints (label : List Char) (n : Nat) (p : Progress) : List Nat → Progress
  | [] => p
  | m :: rest =>
    let p := { p with delta := p.delta + (m - n) * (p.written + 1) }
    let p := label.foldl (Progress.pass m) p
    writePoints label (m + 1) { p with delta := p.delta + 1 } rest

/-- Adds a number to a list of increasing numbers, unless it is there. -/
def insertPoint (m : Nat) : List Nat → List Nat
  | [] => [m]
  | k :: rest =>
    if m < k then m :: k :: rest else if m = k then k :: rest else k :: insertPoint m rest

/-- The Punycode form of a label. -/
def encode (label : List Char) : List Char :=
  let basic := label.filter fun c ↦ c.toNat < 0x80
  let points := (label.filter fun c ↦ 0x80 ≤ c.toNat).foldr (fun c ms ↦ insertPoint c.toNat ms) []
  let start : Progress := ⟨0, 72, basic.length, false, []⟩
  let numbers := (writePoints label 0x80 start points).output.reverse
  (if basic.isEmpty then [] else basic ++ ['-']) ++ numbers

end SocksRouter.Idna.Punycode
