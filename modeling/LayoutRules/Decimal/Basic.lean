/-!
# Decimals

A decimal is a natural number of digits scaled by a power of ten. One value
has many decimals; the canonical one ends in no zero.
-/

namespace LayoutRules

/-- The value digits * 10 ^ exponent. -/
structure Decimal where
  digits : Nat
  exponent : Int
deriving DecidableEq, Repr

namespace Decimal

/-- The numerator of the value over its denominator. -/
def numerator (d : Decimal) : Nat :=
  d.digits * Nat.pow 10 d.exponent.toNat

/-- The denominator, a power of ten that is one for a whole exponent. -/
def denominator (d : Decimal) : Nat :=
  Nat.pow 10 (-d.exponent).toNat

theorem denominator_pos
    (d : Decimal) :
    0 < d.denominator :=
  Nat.pow_pos (by decide)

/--
The canonical decimal of the same value: trailing zeros move into the exponent,
and zero has the exponent zero.
-/
def canonical (digits : Nat) (exponent : Int) : Decimal :=
  if digits = 0 then
    ⟨0, 0⟩
  else if digits % 10 = 0 then
    canonical (digits / 10) (exponent + 1)
  else
    ⟨digits, exponent⟩
termination_by digits
decreasing_by omega

/-- The canonical decimal of the same value as another. -/
def reduced (d : Decimal) : Decimal :=
  canonical d.digits d.exponent

/-- The decimal digits of a natural number, the leading one first. -/
def text (n : Nat) : List Char :=
  Nat.toDigits 10 n

/-- The number that decimal digits of ASCII denote. -/
def read (digits : List Char) : Nat :=
  Nat.ofDigitChars 10 digits 0

theorem read_text
    (n : Nat) :
    read (text n) = n :=
  Nat.ofDigitChars_toDigits (by decide) (by decide)

/-- How many decimal digits a natural number has. -/
def length (n : Nat) : Nat :=
  (text n).length

/-- The power of ten of the leading digit. -/
def leading (d : Decimal) : Int :=
  (length d.digits : Int) - 1 + d.exponent

end Decimal

end LayoutRules
