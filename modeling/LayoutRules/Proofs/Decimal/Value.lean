import LayoutRules.Decimal.Shortest
import LayoutRules.Proofs.Binary64.Rounding
import Mathlib.Algebra.Order.Field.Rat
import Mathlib.Tactic.FieldSimp
import Mathlib.Tactic.NormNum
import Mathlib.Tactic.Ring

/-!
# The value of a decimal and its nearest number

Rounding looks at the value of a decimal alone, so a decimal may be replaced
by any other of the same value. The shortest decimal of a finite magnitude is
either checked to read back or the exact one, and both are nearest to the
magnitude they were made from.
-/

namespace LayoutRules

namespace Decimal

/-- The rational number that a decimal denotes. -/
def value (d : Decimal) : ℚ :=
  d.digits * 10 ^ d.exponent

theorem numerator_div_denominator
    (d : Decimal) :
    (d.numerator : ℚ) / d.denominator = d.value := by
  obtain ⟨digits, exponent⟩ := d
  cases exponent with
  | ofNat n =>
      simp [numerator, denominator, value]
  | negSucc n =>
      simp [numerator, denominator, value, zpow_negSucc, div_eq_mul_inv]

/-- Digits with a power of five are parts of the same power of two. -/
theorem value_mul_five_pow
    (n places : Nat) :
    value ⟨n * Nat.pow 5 places, -places⟩ = (n : ℚ) / Nat.pow 2 places := by
  have hten : (10 : ℚ) ^ places = 2 ^ places * 5 ^ places := by
    rw [← mul_pow]
    norm_num
  simp only [value, Nat.pow_eq, Nat.cast_mul, Nat.cast_pow, Nat.cast_ofNat, zpow_neg,
    zpow_natCast, hten]
  field_simp

/-- Ten times the digits stand for the next power of ten. -/
theorem value_mul_ten
    (digits : Nat)
    (exponent : Int) :
    value ⟨10 * digits, exponent⟩ = value ⟨digits, exponent + 1⟩ := by
  have hten : (10 : ℚ) ≠ 0 := by norm_num
  simp only [value, Nat.cast_mul, Nat.cast_ofNat, zpow_add_one₀ hten]
  ring

theorem value_canonical
    (digits : Nat)
    (exponent : Int) :
    (canonical digits exponent).value = value ⟨digits, exponent⟩ := by
  fun_induction canonical digits exponent with
  | case1 exponent =>
      simp [value]
  | case2 digits exponent hzero hten ih =>
      rw [ih, ← value_mul_ten, Nat.mul_div_cancel' (Nat.dvd_of_mod_eq_zero hten)]
  | case3 digits exponent hzero hten =>
      rfl

/-- A canonical decimal has the value that it was made from. -/
theorem value_reduced
    (d : Decimal) :
    d.reduced.value = d.value := by
  obtain ⟨digits, exponent⟩ := d
  exact value_canonical digits exponent

end Decimal

namespace Binary64

/-- Fractions of one value have one nearest magnitude. -/
theorem nearest_eq_of_div_eq
    {n d n' d' : Nat}
    (hd : 0 < d)
    (hd' : 0 < d')
    (h : (n : ℚ) / d = n' / d') :
    nearest n d = nearest n' d' := by
  rw [div_eq_div_iff (by positivity) (by positivity)] at h
  exact nearest_congr hd hd' (by exact_mod_cast h)

/-- Decimals of one value have one nearest magnitude. -/
theorem nearest_eq_of_value_eq
    {d d' : Decimal}
    (h : d.value = d'.value) :
    nearest d.numerator d.denominator = nearest d'.numerator d'.denominator := by
  apply nearest_eq_of_div_eq d.denominator_pos d'.denominator_pos
  rw [d.numerator_div_denominator, d'.numerator_div_denominator, h]

end Binary64

namespace Decimal

theorem nearest_of_readsBack
    {magnitude : Nat} {d : Decimal}
    (h : readsBack magnitude d = true) :
    Binary64.nearest d.numerator d.denominator = magnitude := by
  simpa [readsBack] using h

/-- The exact decimal of a finite magnitude reads back to it. -/
theorem nearest_exact
    {magnitude : Nat}
    (h : magnitude < Binary64.infinite) :
    Binary64.nearest (exact magnitude).numerator (exact magnitude).denominator =
      magnitude := by
  have hdiv :
      ((exact magnitude).numerator : ℚ) / (exact magnitude).denominator =
        Binary64.units magnitude / Binary64.unitsPerOne := by
    rw [(exact magnitude).numerator_div_denominator]
    unfold Decimal.exact Binary64.unitsPerOne
    exact value_mul_five_pow (Binary64.units magnitude) Binary64.unitPlaces
  calc
    Binary64.nearest (exact magnitude).numerator (exact magnitude).denominator
      = Binary64.nearest (Binary64.units magnitude) Binary64.unitsPerOne :=
        Binary64.nearest_eq_of_div_eq (exact magnitude).denominator_pos
          Binary64.unitsPerOne_pos hdiv
    _ = magnitude := Binary64.nearest_units h

/-- What is chosen is one of the two decimals, and an admitted one. -/
theorem eq_of_choose
    {admitsLower admitsUpper prefersUpper : Bool} {lower upper d : Decimal}
    (h : choose admitsLower admitsUpper prefersUpper lower upper = some d) :
    (admitsLower = true ∧ lower = d) ∨ (admitsUpper = true ∧ upper = d) := by
  cases admitsLower with
  | false =>
      cases admitsUpper with
      | false => cases h
      | true => exact Or.inr ⟨rfl, Option.some.inj h⟩
  | true =>
      cases admitsUpper with
      | false => exact Or.inl ⟨rfl, Option.some.inj h⟩
      | true =>
          cases prefersUpper with
          | false => exact Or.inl ⟨rfl, Option.some.inj h⟩
          | true => exact Or.inr ⟨rfl, Option.some.inj h⟩

/-- A decimal that is found on a grid reads back. -/
theorem readsBack_of_onGrid
    {tie : Tie} {magnitude : Nat} {place : Int} {d : Decimal}
    (h : onGrid tie magnitude place = some d) :
    readsBack magnitude d = true := by
  rcases eq_of_choose h with ⟨hlower, rfl⟩ | ⟨hupper, rfl⟩
  · exact hlower
  · exact hupper

/-- A brief decimal reads back. -/
theorem readsBack_of_brief?
    {tie : Tie} {magnitude : Nat} {d : Decimal}
    (h : brief? tie magnitude = some d) :
    readsBack magnitude d = true := by
  obtain ⟨places, -, hgrid⟩ := List.exists_of_findSome?_eq_some h
  exact readsBack_of_onGrid hgrid

/-- The shortest decimal is made from one that reads back, brief or exact. -/
theorem nearest_getD_brief?
    (tie : Tie)
    {magnitude : Nat}
    (h : magnitude < Binary64.infinite) :
    ∀ candidate : Option Decimal,
      brief? tie magnitude = candidate →
      Binary64.nearest (candidate.getD (exact magnitude)).numerator
        (candidate.getD (exact magnitude)).denominator = magnitude := by
  intro candidate hcandidate
  cases candidate with
  | none => exact nearest_exact h
  | some found => exact nearest_of_readsBack (readsBack_of_brief? hcandidate)

/-- The shortest decimal of a finite magnitude reads back to it. -/
theorem nearest_shortest
    (tie : Tie)
    {magnitude : Nat}
    (h : magnitude < Binary64.infinite) :
    Binary64.nearest (shortest tie magnitude).numerator (shortest tie magnitude).denominator =
      magnitude :=
  (Binary64.nearest_eq_of_value_eq
    (value_reduced ((brief? tie magnitude).getD (exact magnitude)))).trans
    (nearest_getD_brief? tie h (brief? tie magnitude) rfl)

end Decimal

end LayoutRules
