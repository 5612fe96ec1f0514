import SocksRouter.Text.Lowercase.Table
import SocksRouter.Text.Ranges

/-!
# Lower case

Full lower-casing of a text. Every capital has one small letter, with two exceptions: the capital I
with a dot above becomes an i and a combining dot, and the capital sigma takes its final form at the
end of a word. A sigma is at the end of a word when a letter with case stands before it and none
after it, characters that are looked through not counting.
-/

namespace SocksRouter.Text

/-- The small letter that a run gives to a code point, if the code point is a capital of it. -/
def CaseRun.small? (run : CaseRun) (n : Nat) : Option Nat :=
  if run.first ≤ n ∧ n ≤ run.last ∧ (n - run.first) % run.stride = 0 then
    some (run.small + (n - run.first))
  else none

/-- The small letter of a code point according to a list of runs in increasing order. -/
def smallIn : List CaseRun → Nat → Nat
  | [], n => n
  | run :: rest, n =>
    if n < run.first then n
    else match run.small? n with
      | some m => m
      | none => smallIn rest n

/-- The small letter of a character that has a single one; any other character is its own. -/
def smallLetter (c : Char) : Char :=
  Char.ofNat (smallIn caseRuns c.toNat)

/-- Whether the character is looked through when the end of a word is sought. -/
def isCaseIgnorable (c : Char) : Bool :=
  inRanges caseIgnorableRanges c.toNat

/-- Whether the character is a letter with case that is not looked through. -/
def isCased (c : Char) : Bool :=
  inRanges casedRanges c.toNat

/-- Whether a letter with case comes first, after what is looked through. -/
def casedAhead (s : List Char) : Bool :=
  match s.dropWhile isCaseIgnorable with
  | [] => false
  | c :: _ => isCased c

/-- The lower case of a text in front of which a letter with case stands (`casedBefore`) or none. -/
def lowerAfter (casedBefore : Bool) : List Char → List Char
  | [] => []
  | c :: rest =>
    let small :=
      if c = '\u03A3' then [if casedBefore && !casedAhead rest then '\u03C2' else '\u03C3']
      else if c = '\u0130' then ['i', '\u0307']
      else [smallLetter c]
    small ++ lowerAfter (if isCaseIgnorable c then casedBefore else isCased c) rest

/-- The lower case of a text. -/
def lower (s : List Char) : List Char :=
  lowerAfter false s

end SocksRouter.Text
