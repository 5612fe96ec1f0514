import SocksRouter.Idna.Data.Composition
import SocksRouter.Idna.Data.Decomposition
import SocksRouter.Idna.Data.Folding
import SocksRouter.Idna.Normalization
import SocksRouter.Idna.Rows

/-!
# The standard character data

The tables that host names are normalised by, made searchable.
-/

namespace SocksRouter.Idna

/-- The decompositions by code point. -/
@[irreducible]
def decompositions : Std.HashMap Nat (List Nat) :=
  indexRows decompositionRows

/-- The compositions by the pair of code points. -/
@[irreducible]
def compositions : Std.HashMap (Nat × Nat) Nat :=
  (readRows compositionRows).foldl
    (fun index row ↦ match row with
      | [first, second, whole] => index.insert (first, second) whole
      | _ => index) ∅

/-- The foldings by code point. -/
@[irreducible]
def foldings : Std.HashMap Nat (List Nat) :=
  indexRows foldingRows

/-- The class of a code point in a list of ranges in increasing order. -/
def classIn : List (Nat × Nat × Nat) → Nat → Nat
  | [], _ => 0
  | (lo, hi, k) :: rest, n => if n < lo then 0 else if n ≤ hi then k else classIn rest n

/-- The character data of the standard. -/
@[irreducible]
def standardData : CharacterData where
  decomposition? n := decompositions[n]?
  composition? first second := compositions[(first, second)]?
  combiningClass := classIn combiningClasses

end SocksRouter.Idna
