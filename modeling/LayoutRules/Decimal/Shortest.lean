import LayoutRules.Binary64.Nearest

/-!
# The shortest decimal of a number

A finite magnitude is written with the fewest significant digits that read
back to it, and among the decimals of that length with the nearest one. The
two neighbours of the value on a decimal grid are enough to look at: if any
point of the grid reads back, one of them does.

Seventeen digits always suffice. The exact expansion stands behind them, so
that reading back needs no such bound.
-/

namespace LayoutRules

/-- Which of two decimals at the same distance is written. -/
inductive Tie where
  | upward
  | even
deriving DecidableEq, Repr

namespace Decimal

/-- A decimal reads back to a magnitude when it is nearest to it. -/
def readsBack (magnitude : Nat) (d : Decimal) : Bool :=
  Binary64.nearest d.numerator d.denominator == magnitude

/-- The power of ten just above a magnitude's leading digit. -/
def order (magnitude : Nat) : Int :=
  (length (Binary64.units magnitude * Nat.pow 10 324 / Binary64.unitsPerOne) : Int) - 324

/-- The admitted one of two decimals, or the preferred one if both are admitted. -/
def choose
    (admitsLower admitsUpper prefersUpper : Bool)
    (lower upper : Decimal) :
    Option Decimal :=
  match admitsLower, admitsUpper with
  | true, true => some (if prefersUpper then upper else lower)
  | true, false => some lower
  | false, true => some upper
  | false, false => none

/-- The better of a value's two neighbours on the grid of multiples of 10 ^ place. -/
def onGrid
    (tie : Tie)
    (magnitude : Nat)
    (place : Int) :
    Option Decimal :=
  let numerator := Binary64.units magnitude * Nat.pow 10 (-place).toNat
  let denominator := Binary64.unitsPerOne * Nat.pow 10 place.toNat
  let lower : Decimal := ⟨numerator / denominator, place⟩
  let upper : Decimal := ⟨numerator / denominator + 1, place⟩
  let twice := 2 * (numerator % denominator)
  let prefersUpper :=
    decide (denominator < twice) ||
      (twice == denominator && (tie == .upward || lower.digits % 2 == 1))
  choose (readsBack magnitude lower) (readsBack magnitude upper) prefersUpper lower upper

/-- Every digit of the value: a unit has as many decimal places as binary ones. -/
def exact (magnitude : Nat) : Decimal :=
  ⟨Binary64.units magnitude * Nat.pow 5 Binary64.unitPlaces, -Binary64.unitPlaces⟩

/-- The first decimal that reads back on the grids of up to seventeen digits. -/
def brief?
    (tie : Tie)
    (magnitude : Nat) :
    Option Decimal :=
  (List.range 17).findSome? fun places =>
    onGrid tie magnitude (order magnitude - (places + 1 : Nat))

/-- The shortest decimal that reads back to a finite magnitude. -/
def shortest
    (tie : Tie)
    (magnitude : Nat) :
    Decimal :=
  ((brief? tie magnitude).getD (exact magnitude)).reduced

end Decimal
end LayoutRules
