import LayoutRules.Binary64.Nearest
import Mathlib.Order.Monotone.Basic
import Mathlib.Tactic.LinearCombination
import Mathlib.Tactic.Ring

/-!
# Correct rounding

A quotient is rounded to the magnitude nearest to it, and of two at the same
distance to the even one, as if the exponents of magnitudes had no end. What is
rounded beyond the finite ones is infinite. A quotient has only one nearest
magnitude, so rounding does not see the fraction that the quotient is written as.

The magnitudes with one exponent denote multiples of one power of two. Among
these the significand is rounded. The magnitudes with a greater exponent denote
such multiples too, and those with a smaller one are too small to be nearer.
-/

namespace LayoutRules
namespace Binary64

/-- How far a multiple of a denominator is from a numerator. -/
def gap (numerator denominator multiple : Nat) : Nat :=
  ((multiple * denominator : Nat) - (numerator : Nat) : Int).natAbs

/-- How far a magnitude is from a quotient, in parts of a unit as small as the denominator says. -/
def distance (numerator denominator magnitude : Nat) : Nat :=
  gap (numerator * unitsPerOne) denominator (units magnitude)

/-- No magnitude is nearer to a quotient, and if another one is as near, this one is even. -/
structure IsNearest
    (numerator denominator magnitude : Nat) :
    Prop where
  closest :
    ∀ other,
      distance numerator denominator magnitude ≤ distance numerator denominator other
  even :
    ∀ other,
      distance numerator denominator other = distance numerator denominator magnitude →
      other = magnitude ∨ magnitude % 2 = 0

theorem unitsPerOne_pos :
    0 < unitsPerOne := by
  unfold unitsPerOne
  generalize unitPlaces = places
  exact Nat.two_pow_pos places

section Grid

/-- A significand of 53 places at a binary exponent denotes a multiple of a power of two. -/
theorem units_scaled
    {shift significand : Nat}
    (hupper : significand ≤ 2 ^ 53)
    (hlower : shift = 0 ∨ 2 ^ 52 ≤ significand) :
    units (shift * 2 ^ 52 + significand) = significand * 2 ^ shift := by
  have hsplit (quotient remainder : Nat) (h : remainder < 2 ^ 52) :
      (quotient * 2 ^ 52 + remainder) / 2 ^ 52 = quotient ∧
        (quotient * 2 ^ 52 + remainder) % 2 ^ 52 = remainder := by
    omega
  rcases Nat.lt_or_ge significand (2 ^ 52) with hsmall | hlarge
  · obtain rfl : shift = 0 := hlower.resolve_right (by omega)
    obtain ⟨hquotient, hremainder⟩ := hsplit 0 significand hsmall
    simp only [units, Nat.pow_eq, hquotient, hremainder, if_true, Nat.pow_zero, Nat.mul_one]
  · obtain ⟨fraction, rfl⟩ := Nat.exists_eq_add_of_le hlarge
    rcases Nat.lt_or_ge fraction (2 ^ 52) with hfraction | hfraction
    · obtain ⟨hquotient, hremainder⟩ := hsplit (shift + 1) fraction hfraction
      have hsum : shift * 2 ^ 52 + (2 ^ 52 + fraction) = (shift + 1) * 2 ^ 52 + fraction := by
        ring
      simp only [units, Nat.pow_eq, hsum, hquotient, hremainder, Nat.succ_ne_zero, if_false,
        Nat.add_sub_cancel]
    · -- A carry out of the significand is the next exponent.
      obtain rfl : fraction = 2 ^ 52 := by omega
      obtain ⟨hquotient, hremainder⟩ := hsplit (shift + 2) 0 (by decide)
      have hsum : shift * 2 ^ 52 + (2 ^ 52 + 2 ^ 52) = (shift + 2) * 2 ^ 52 + 0 := by
        ring
      simp only [units, Nat.pow_eq, hsum, hquotient, hremainder, Nat.succ_ne_zero, if_false]
      rw [show shift + 2 - 1 = shift + 1 from rfl, Nat.pow_succ]
      ring

/-- Every magnitude is a significand at a binary exponent. -/
theorem exists_scaled
    (magnitude : Nat) :
    ∃ shift significand,
      magnitude = shift * 2 ^ 52 + significand ∧
      significand < 2 ^ 53 ∧
      (shift = 0 ∨ 2 ^ 52 ≤ significand) := by
  refine ⟨magnitude / 2 ^ 52 - 1, magnitude - (magnitude / 2 ^ 52 - 1) * 2 ^ 52, ?_, ?_, ?_⟩
  all_goals omega

/-- Greater magnitudes denote more units. -/
theorem units_strictMono :
    StrictMono units := by
  refine strictMono_nat_of_lt_succ fun magnitude => ?_
  obtain ⟨shift, significand, rfl, hupper, hlower⟩ := exists_scaled magnitude
  have hnext : shift = 0 ∨ 2 ^ 52 ≤ significand + 1 := hlower.imp_right (by omega)
  rw [units_scaled hupper.le hlower, Nat.add_assoc, units_scaled hupper hnext]
  exact Nat.mul_lt_mul_of_pos_right (Nat.lt_succ_self significand) (Nat.two_pow_pos shift)

end Grid

section Multiples

variable {numerator denominator : Nat}

theorem gap_mul
    (numerator denominator multiple factor : Nat) :
    gap numerator denominator (multiple * factor) =
      gap numerator (denominator * factor) multiple := by
  rw [gap, gap, Nat.mul_assoc, Nat.mul_comm factor]

/-- Rounding goes down on the near side of the middle or up behind it, and in the middle to even. -/
theorem roundEven_cases
    (numerator denominator : Nat) :
    (2 * (numerator % denominator) ≤ denominator ∧
      roundEven numerator denominator = numerator / denominator ∧
      (2 * (numerator % denominator) = denominator → numerator / denominator % 2 = 0)) ∨
    (denominator ≤ 2 * (numerator % denominator) ∧
      roundEven numerator denominator = numerator / denominator + 1 ∧
      (2 * (numerator % denominator) = denominator →
        (numerator / denominator + 1) % 2 = 0)) := by
  unfold roundEven
  dsimp only
  split
  case isTrue h => exact Or.inl ⟨by omega, rfl, by omega⟩
  case isFalse h =>
    split
    case isTrue h' => exact Or.inr ⟨by omega, rfl, by omega⟩
    case isFalse h' =>
      rcases Nat.mod_two_eq_zero_or_one (numerator / denominator) with hparity | hparity
      · exact Or.inl ⟨by omega, by omega, by omega⟩
      · exact Or.inr ⟨by omega, by omega, by omega⟩

/-- No multiple of the denominator is nearer than the rounded one, and another as near is odd. -/
theorem gap_roundEven
    (hpos : 0 < denominator)
    (numerator other : Nat) :
    gap numerator denominator (roundEven numerator denominator) ≤
        gap numerator denominator other ∧
      (gap numerator denominator other =
          gap numerator denominator (roundEven numerator denominator) →
        other = roundEven numerator denominator ∨
          roundEven numerator denominator % 2 = 0) := by
  have hparts := Nat.div_add_mod numerator denominator
  have hrem := Nat.mod_lt numerator hpos
  have hcases := roundEven_cases numerator denominator
  rw [Nat.mul_comm] at hparts
  generalize numerator / denominator = quotient at hparts hcases
  generalize numerator % denominator = remainder at hparts hrem hcases
  have hmultiple (small large : Nat) (h : small < large) :
      small * denominator + denominator ≤ large * denominator := by
    rw [← Nat.succ_mul]
    exact Nat.mul_le_mul_right denominator h
  unfold gap
  rcases hcases with ⟨hside, hround, heven⟩ | ⟨hside, hround, heven⟩
  · rw [hround]
    rcases Nat.lt_trichotomy other quotient with hlt | rfl | hgt
    · have hbelow := hmultiple other quotient hlt
      omega
    · omega
    · have habove := hmultiple quotient other hgt
      omega
  · rw [hround, Nat.succ_mul]
    rcases Nat.lt_trichotomy other (quotient + 1) with hlt | rfl | hgt
    · have hbelow := Nat.mul_le_mul_right denominator (Nat.le_of_lt_succ hlt)
      omega
    · rw [Nat.succ_mul]
      omega
    · have habove := hmultiple (quotient + 1) other hgt
      rw [Nat.succ_mul] at habove
      omega

theorem div_le_roundEven
    (numerator denominator : Nat) :
    numerator / denominator ≤ roundEven numerator denominator ∧
      roundEven numerator denominator ≤ numerator / denominator + 1 := by
  rcases roundEven_cases numerator denominator with ⟨-, hround, -⟩ | ⟨-, hround, -⟩
  · rw [hround]
    exact ⟨Nat.le_refl _, Nat.le_succ _⟩
  · rw [hround]
    exact ⟨Nat.le_succ _, Nat.le_refl _⟩

end Multiples

section Exponents

/-- What is cut off leaves 53 places, and none less if anything is cut off. -/
theorem excess_bounds
    (units : Nat) :
    units < 2 ^ 53 * 2 ^ excess units ∧
      (excess units = 0 ∨ 2 ^ 52 * 2 ^ excess units ≤ units) := by
  unfold excess
  rw [← Nat.pow_add, ← Nat.pow_add]
  constructor
  · exact Nat.lt_of_lt_of_le Nat.lt_log2_self (Nat.pow_le_pow_right (by decide) (by omega))
  · by_cases hlog : units.log2 ≤ 52
    · exact Or.inl (by omega)
    · refine Or.inr ?_
      have hne : units ≠ 0 := by
        rintro rfl
        exact hlog (by decide)
      have hplaces : 52 + (units.log2 + 1 - 53) = units.log2 := by omega
      rw [hplaces]
      exact Nat.log2_self_le hne

variable {numerator denominator shift : Nat}

/-- A smaller exponent leaves less than the least significand of the rounded one. -/
theorem gap_lt_of_shift_lt
    {shift' significand : Nat}
    (hpos : 0 < denominator)
    (hlower : 2 ^ 52 * 2 ^ shift ≤ numerator / denominator)
    (hshift : shift' < shift)
    (hsignificand : significand < 2 ^ 53) :
    gap numerator (denominator * 2 ^ shift) (2 ^ 52) <
      gap numerator denominator (significand * 2 ^ shift') := by
  have hpower : 2 ^ shift' * 2 ≤ 2 ^ shift := by
    rw [← Nat.pow_succ]
    exact Nat.pow_le_pow_right (by decide) hshift
  have hsmall : significand * 2 ^ shift' < 2 ^ 52 * 2 ^ shift := by
    calc
      significand * 2 ^ shift'
        < 2 ^ 53 * 2 ^ shift' :=
          Nat.mul_lt_mul_of_pos_right hsignificand (Nat.two_pow_pos shift')
      _ = 2 ^ 52 * (2 ^ shift' * 2) := by ring
      _ ≤ 2 ^ 52 * 2 ^ shift := Nat.mul_le_mul_left _ hpower
  have hmultiple := Nat.mul_lt_mul_of_pos_right hsmall hpos
  have hnumerator : 2 ^ 52 * 2 ^ shift * denominator ≤ numerator :=
    (Nat.le_div_iff_mul_le hpos).mp hlower
  rw [← gap_mul, gap, gap]
  omega

/-- The rounded significand at the exponent of a quotient is the nearest magnitude. -/
theorem isNearest_scaled
    (hpos : 0 < denominator)
    (hupper : numerator * unitsPerOne / denominator < 2 ^ 53 * 2 ^ shift)
    (hlower :
      shift = 0 ∨ 2 ^ 52 * 2 ^ shift ≤ numerator * unitsPerOne / denominator) :
    IsNearest numerator denominator
      (shift * 2 ^ 52 +
        roundEven (numerator * unitsPerOne) (denominator * 2 ^ shift)) := by
  generalize hinUnits : numerator * unitsPerOne = inUnits at hupper hlower
  have hpower := Nat.two_pow_pos shift
  have hgap := gap_roundEven (Nat.mul_pos hpos hpower) inUnits
  obtain ⟨hfloor, hceil⟩ := div_le_roundEven inUnits (denominator * 2 ^ shift)
  generalize roundEven inUnits (denominator * 2 ^ shift) = significand at hgap hfloor hceil
  rw [← Nat.div_div_eq_div_mul] at hfloor hceil
  have hmost : significand ≤ 2 ^ 53 :=
    Nat.le_trans hceil ((Nat.div_lt_iff_lt_mul hpower).mpr hupper)
  have hleast : shift = 0 ∨ 2 ^ 52 ≤ significand :=
    hlower.imp_right fun h => Nat.le_trans ((Nat.le_div_iff_mul_le hpower).mpr h) hfloor
  have hmade :
      distance numerator denominator (shift * 2 ^ 52 + significand) =
        gap inUnits (denominator * 2 ^ shift) significand := by
    rw [distance, hinUnits, units_scaled hmost hleast, gap_mul]
  -- Another magnitude denotes a multiple of the same power of two, or it is much too small.
  have hother (other : Nat) :
      (∃ multiple,
        units other = multiple * 2 ^ shift ∧
        distance numerator denominator other =
          gap inUnits (denominator * 2 ^ shift) multiple) ∨
      gap inUnits (denominator * 2 ^ shift) significand <
        distance numerator denominator other := by
    obtain ⟨shift', significand', rfl, hupper', hlower'⟩ := exists_scaled other
    have hunits := units_scaled hupper'.le hlower'
    rw [distance, hinUnits, hunits]
    rcases Nat.lt_or_ge shift' shift with hshift | hshift
    · have hleast := hlower.resolve_left (by omega)
      exact Or.inr (Nat.lt_of_le_of_lt (hgap (2 ^ 52)).1
        (gap_lt_of_shift_lt hpos hleast hshift hupper'))
    · obtain ⟨more, rfl⟩ := Nat.exists_eq_add_of_le hshift
      have hmultiple :
          significand' * 2 ^ (shift + more) = significand' * 2 ^ more * 2 ^ shift := by
        rw [Nat.pow_add, Nat.mul_comm (2 ^ shift), ← Nat.mul_assoc]
      refine Or.inl ⟨significand' * 2 ^ more, hmultiple, ?_⟩
      rw [hmultiple, gap_mul]
  refine ⟨fun other => ?_, fun other heq => ?_⟩
  · rw [hmade]
    rcases hother other with ⟨multiple, -, hdistance⟩ | hlt
    · rw [hdistance]
      exact (hgap multiple).1
    · exact hlt.le
  · rw [hmade] at heq
    rcases hother other with ⟨multiple, hunits, hdistance⟩ | hlt
    · rw [hdistance] at heq
      rcases (hgap multiple).2 heq with rfl | heven
      · refine Or.inl (units_strictMono.injective ?_)
        rw [hunits, units_scaled hmost hleast]
      · exact Or.inr (by omega)
    · exact absurd heq hlt.ne'

end Exponents

section Quotients

variable {numerator denominator magnitude : Nat}

/-- Rounding finds the nearest magnitude, and beyond the finite ones the infinite one. -/
theorem exists_isNearest
    (hpos : 0 < denominator)
    (numerator : Nat) :
    ∃ magnitude,
      IsNearest numerator denominator magnitude ∧
      nearest numerator denominator = min magnitude infinite := by
  obtain ⟨hupper, hlower⟩ := excess_bounds (numerator * unitsPerOne / denominator)
  exact ⟨_, isNearest_scaled hpos hupper hlower, rfl⟩

/-- Between two magnitudes as near as each other there would be a nearer one, or one is odd. -/
theorem IsNearest.le
    {other : Nat}
    (hpos : 0 < denominator)
    (h : IsNearest numerator denominator magnitude)
    (hother : IsNearest numerator denominator other) :
    other ≤ magnitude := by
  by_contra hlt
  have hsame := Nat.le_antisymm (hother.closest magnitude) (h.closest other)
  have heven := (h.even other hsame).resolve_left (by omega)
  have heven' := (hother.even magnitude hsame.symm).resolve_left (by omega)
  have hbelow := units_strictMono (Nat.lt_add_one magnitude)
  have habove := units_strictMono (show magnitude + 1 < other by omega)
  have hfirst := Nat.mul_lt_mul_of_pos_right hbelow hpos
  have hsecond := Nat.mul_lt_mul_of_pos_right habove hpos
  have hbetween := h.closest (magnitude + 1)
  unfold distance gap at hsame hbetween
  generalize numerator * unitsPerOne = inUnits at hsame hbetween
  omega

/-- A quotient has only one nearest magnitude. -/
theorem IsNearest.unique
    {other : Nat}
    (hpos : 0 < denominator)
    (h : IsNearest numerator denominator magnitude)
    (hother : IsNearest numerator denominator other) :
    magnitude = other :=
  Nat.le_antisymm (hother.le hpos h) (h.le hpos hother)

/-- A finite magnitude is what a quotient is rounded to exactly when it is the nearest. -/
theorem nearest_eq_iff
    (hpos : 0 < denominator)
    (hfinite : magnitude < infinite) :
    nearest numerator denominator = magnitude ↔
      IsNearest numerator denominator magnitude := by
  obtain ⟨rounded, hrounded, heq⟩ := exists_isNearest hpos numerator
  rw [heq]
  constructor
  · intro h
    obtain rfl : rounded = magnitude := by omega
    exact hrounded
  · intro h
    rw [hrounded.unique hpos h]
    exact Nat.min_eq_left hfinite.le

/-- A magnitude is nearest to the units that it denotes. -/
theorem isNearest_units
    (magnitude : Nat) :
    IsNearest (units magnitude) unitsPerOne magnitude := by
  have hzero : distance (units magnitude) unitsPerOne magnitude = 0 := by
    rw [distance, gap, Int.sub_self, Int.natAbs_zero]
  refine ⟨fun other => ?_, fun other heq => Or.inl ?_⟩
  · rw [hzero]
    exact Nat.zero_le _
  · rw [hzero, distance, gap, Int.natAbs_eq_zero, Int.sub_eq_zero] at heq
    exact units_strictMono.injective (Nat.eq_of_mul_eq_mul_right unitsPerOne_pos (by omega))

theorem nearest_units
    (hfinite : magnitude < infinite) :
    nearest (units magnitude) unitsPerOne = magnitude :=
  (nearest_eq_iff unitsPerOne_pos hfinite).mpr (isNearest_units magnitude)

section Fractions

variable {numerator' denominator' : Nat}

/-- Fractions of one quotient have the same distances in parts of different sizes. -/
theorem distance_mul_denominator
    (h : numerator * denominator' = numerator' * denominator)
    (magnitude : Nat) :
    distance numerator denominator magnitude * denominator' =
      distance numerator' denominator' magnitude * denominator := by
  have hcast : (numerator : Int) * denominator' = numerator' * denominator := by
    exact_mod_cast h
  have hparts :
      ((units magnitude * denominator : Nat) - (numerator * unitsPerOne : Nat) : Int) *
          denominator' =
        ((units magnitude * denominator' : Nat) - (numerator' * unitsPerOne : Nat) : Int) *
          denominator := by
    push_cast
    linear_combination -(unitsPerOne : Int) * hcast
  have habs := congrArg Int.natAbs hparts
  rwa [Int.natAbs_mul, Int.natAbs_mul, Int.natAbs_natCast, Int.natAbs_natCast] at habs

theorem IsNearest.congr
    (hpos : 0 < denominator)
    (hpos' : 0 < denominator')
    (h : numerator * denominator' = numerator' * denominator)
    (hnearest : IsNearest numerator denominator magnitude) :
    IsNearest numerator' denominator' magnitude := by
  have hdistance := distance_mul_denominator h
  refine ⟨fun other => ?_, fun other heq => ?_⟩
  · refine Nat.le_of_mul_le_mul_right ?_ hpos
    rw [← hdistance, ← hdistance]
    exact Nat.mul_le_mul_right denominator' (hnearest.closest other)
  · refine hnearest.even other (Nat.eq_of_mul_eq_mul_right hpos' ?_)
    rw [hdistance, hdistance, heq]

/-- The nearest magnitude of a quotient does not depend on its fraction. -/
theorem nearest_congr
    (hpos : 0 < denominator)
    (hpos' : 0 < denominator')
    (h : numerator * denominator' = numerator' * denominator) :
    nearest numerator denominator = nearest numerator' denominator' := by
  obtain ⟨magnitude, hnearest, heq⟩ := exists_isNearest hpos numerator
  obtain ⟨magnitude', hnearest', heq'⟩ := exists_isNearest hpos' numerator'
  rw [heq, heq', (hnearest.congr hpos hpos' h).unique hpos' hnearest']

end Fractions

end Quotients

/-- A number is made from every decimal that is rounded to its magnitude. -/
theorem ofDecimal_eq
    {x : Binary64} {d : Decimal}
    (h : nearest d.numerator d.denominator = x.magnitude) :
    ofDecimal x.negative d = x := by
  obtain ⟨negative, magnitude, hmagnitude⟩ := x
  subst h
  rfl

end Binary64
end LayoutRules
