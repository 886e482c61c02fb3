/-!
# Classes of characters given by ranges of code points

A class is a list of inclusive ranges in ascending order, so a standard's
table is plain data and membership is one decidable test.
-/

namespace LayoutRules
namespace Text

/-- Inclusive ranges of code points. -/
structure Ranges where
  bounds : List (Nat × Nat)

namespace Ranges

/-- A character is in the class when some range holds its code point. -/
def contains
    (ranges : Ranges)
    (c : Char) :
    Bool :=
  ranges.bounds.any fun bound =>
    decide (bound.1 ≤ c.toNat) && decide (c.toNat ≤ bound.2)

theorem contains_iff
    (ranges : Ranges)
    (c : Char) :
    ranges.contains c = true ↔
      ∃ bound ∈ ranges.bounds,
        bound.1 ≤ c.toNat ∧ c.toNat ≤ bound.2 := by
  simp [contains]

end Ranges

end Text
end LayoutRules
