import LayoutRules.Binary64.Basic
import LayoutRules.Decimal.Basic

/-!
# The nearest binary64 number

A quotient of naturals is rounded to the nearest magnitude, a tie to the
even one. What rounds beyond the greatest finite magnitude is infinite.
-/

namespace LayoutRules
namespace Binary64

/-- The natural nearest to a quotient, a half going to the even neighbour. -/
def roundEven (numerator denominator : Nat) : Nat :=
  let quotient := numerator / denominator
  let twice := 2 * (numerator % denominator)
  if twice < denominator then
    quotient
  else if denominator < twice then
    quotient + 1
  else
    quotient + quotient % 2

/-- How many binary places below the leading 53 a number of units has. -/
def excess (units : Nat) : Nat :=
  units.log2 + 1 - 53

/--
The magnitude nearest to a quotient. The significand keeps 53 binary places of
the quotient in units, and a carry out of it is the next binary exponent.
-/
def nearest (numerator denominator : Nat) : Nat :=
  let inUnits := numerator * unitsPerOne
  let shift := excess (inUnits / denominator)
  let significand := roundEven inUnits (denominator * Nat.pow 2 shift)
  min (shift * Nat.pow 2 52 + significand) infinite

theorem nearest_le_infinite
    (numerator denominator : Nat) :
    nearest numerator denominator ≤ infinite :=
  Nat.min_le_right _ _

/-- The number nearest to a signed decimal. -/
def ofDecimal (negative : Bool) (d : Decimal) : Binary64 where
  negative := negative
  magnitude := nearest d.numerator d.denominator
  magnitude_lt :=
    Nat.lt_of_le_of_lt (nearest_le_infinite _ _) (by decide)

end Binary64
end LayoutRules
