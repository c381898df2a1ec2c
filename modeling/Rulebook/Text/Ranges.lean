/-!
Sets of characters given as lists of code point ranges.

* `Ranges.has`: membership of a code point.
* `Ranges.has_iff`: a code point is in the set when some range holds it.
-/

namespace Rulebook.Text

/-- Closed ranges of code points, in ascending order. -/
abbrev Ranges := List (Nat × Nat)

namespace Ranges

/-- Whether some range holds the code point. -/
def has (ranges : Ranges) (code : Nat) : Bool :=
  ranges.any fun r => r.1 ≤ code && code ≤ r.2

theorem has_iff {ranges : Ranges} {code : Nat} :
    ranges.has code = true ↔ ∃ r ∈ ranges, r.1 ≤ code ∧ code ≤ r.2 := by
  simp [has]

end Ranges
end Rulebook.Text
