/-!
# Ranges of code points

A class of characters is kept as a table of closed ranges of code points, in increasing
order.

* `inRanges`: whether a code point lies in one of them.
-/

namespace ScriptedChat
namespace Text

/-- Whether a code point lies in one of the ranges. -/
def inRanges (ranges : List (Nat × Nat)) (n : Nat) : Bool :=
  ranges.any fun r => r.1 ≤ n && n ≤ r.2

theorem inRanges_eq_true {ranges : List (Nat × Nat)} {n : Nat} :
    inRanges ranges n = true ↔ ∃ r ∈ ranges, r.1 ≤ n ∧ n ≤ r.2 := by
  simp [inRanges]

end Text
end ScriptedChat
