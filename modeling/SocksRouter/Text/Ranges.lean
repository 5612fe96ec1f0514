/-!
# Code point ranges

A character class is a list of disjoint ranges of code points in increasing order. Because the list
is ordered, the search stops at the first range that begins above the code point.
-/

namespace SocksRouter.Text

/-- Whether a code point lies in one of the ranges, which are disjoint and in increasing order. -/
def inRanges : List (Nat × Nat) → Nat → Bool
  | [], _ => false
  | (lo, hi) :: rest, n => if n < lo then false else n ≤ hi || inRanges rest n

/-- A code point of a class lies in one of its ranges. -/
theorem exists_mem_of_inRanges {ranges : List (Nat × Nat)} {n : Nat}
    (h : inRanges ranges n = true) : ∃ r ∈ ranges, r.1 ≤ n ∧ n ≤ r.2 := by
  induction ranges with
  | nil => simp [inRanges] at h
  | cons r rest ih =>
    obtain ⟨lo, hi⟩ := r
    by_cases hlo : n < lo
    · simp [inRanges, hlo] at h
    · by_cases hhi : n ≤ hi
      · exact ⟨(lo, hi), by simp, by simp; omega⟩
      · obtain ⟨r, hr, hb⟩ := ih (by simpa [inRanges, hlo, hhi] using h)
        exact ⟨r, List.mem_cons_of_mem _ hr, hb⟩

end SocksRouter.Text
