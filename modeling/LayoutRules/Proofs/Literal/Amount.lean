import LayoutRules.Proofs.Decimal.Value
import LayoutRules.Proofs.Literal.Spelling

/-!
# The texts of amounts

A decimal that is written by position is a numeral of its value, whatever its
exponent. The shortest decimal of a finite number is nearest to it, so the text
of an amount is a component that denotes the same amount again.
-/

namespace LayoutRules

namespace Decimal

/-- Zeros behind the digits are the same value as a greater exponent. -/
theorem value_pow_ten_mul
    (digits zeros : Nat)
    (exponent : Int) :
    value ⟨10 ^ zeros * digits, exponent⟩ = value ⟨digits, exponent + zeros⟩ := by
  have hten : (10 : ℚ) ≠ 0 := by norm_num
  simp only [value, Nat.cast_mul, Nat.cast_pow, Nat.cast_ofNat, zpow_add₀ hten, zpow_natCast]
  ring

theorem within_text
    (n : Nat) :
    Text.Within Char.isDigit (text n) := by
  intro c hc
  exact Nat.isDigit_of_mem_toDigits (by decide) (by decide) hc

theorem text_ne_nil
    (n : Nat) :
    text n ≠ [] :=
  Nat.toDigits_ne_nil

theorem within_zeros
    (zeros : Nat) :
    Text.Within Char.isDigit (List.replicate zeros '0') := by
  intro c hc
  rw [List.eq_of_mem_replicate hc]
  decide

theorem read_append_zeros
    (digits : List Char)
    (zeros : Nat) :
    read (digits ++ List.replicate zeros '0') = 10 ^ zeros * read digits := by
  unfold read
  rw [Nat.ofDigitChars_append, Nat.ofDigitChars_replicate_zero]

theorem read_zeros_text
    (zeros n : Nat) :
    read (List.replicate zeros '0' ++ text n) = n := by
  have hread := read_text n
  unfold read at hread ⊢
  rw [Nat.ofDigitChars_append, Nat.ofDigitChars_replicate_zero, Nat.mul_zero, hread]

/-- The unsigned texts of a decimal's value: digits of ASCII, with a point among them or without. -/
inductive Written : List Char → Decimal → Prop
  | whole
      {whole : List Char} {d : Decimal}
      (hwhole : Text.Within Char.isDigit whole)
      (hne : whole ≠ [])
      (hvalue : value ⟨read whole, 0⟩ = d.value) :
      Written whole d
  | pointed
      {whole fraction : List Char} {d : Decimal}
      (hwhole : Text.Within Char.isDigit whole)
      (hne : whole ≠ [])
      (hfraction : Text.Within Char.isDigit fraction)
      (hvalue : value ⟨read (whole ++ fraction), -fraction.length⟩ = d.value) :
      Written (whole ++ '.' :: fraction) d

/-- Zeros behind the digits make up for an exponent that is not negative. -/
theorem value_text_zeros
    (digits : Nat)
    {exponent : Int}
    (h : (-exponent).toNat = 0) :
    value ⟨read (text digits ++ List.replicate exponent.toNat '0'), 0⟩ =
      value ⟨digits, exponent⟩ := by
  have hexponent : (0 : Int) + exponent.toNat = exponent := by omega
  rw [read_append_zeros, read_text, value_pow_ten_mul, hexponent]

/-- As many digits behind a point make up for a negative exponent. -/
theorem written_of_fraction
    {whole fraction : List Char} {digits : Nat} {exponent : Int}
    (hwhole : Text.Within Char.isDigit whole)
    (hne : whole ≠ [])
    (hfraction : Text.Within Char.isDigit fraction)
    (hread : read (whole ++ fraction) = digits)
    (hlength : fraction.length = (-exponent).toNat)
    (hnegative : (-exponent).toNat ≠ 0) :
    Written (whole ++ '.' :: fraction) ⟨digits, exponent⟩ := by
  have hexponent : -((-exponent).toNat : Int) = exponent := by omega
  refine .pointed hwhole hne hfraction ?_
  rw [hread, hlength, hexponent]

/-- What a text of digits writes is the numeral of that text behind every sign. -/
theorem Written.numeral
    {text sign : List Char} {d : Decimal} {negative : Bool}
    (h : Written text d)
    (hsign : Numeral.Sign sign negative) :
    ∃ numeral : Numeral,
      Numeral.Spelling (sign ++ text) numeral ∧
      numeral.negative = negative ∧
      Text.Within Char.isDigit (numeral.whole ++ numeral.fraction) ∧
      numeral.decimal.value = d.value := by
  have hdecimal {digits : List Char} (hdigits : Text.Within Char.isDigit digits) :
      Text.Within Text.isDecimalDigit digits :=
    fun c hc => Text.isDecimalDigit_of_isDigit (hdigits c hc)
  cases h with
  | whole hwhole hne hvalue =>
      refine ⟨_, .whole hsign (hdecimal hwhole) hne, rfl, ?_, ?_⟩
      · rwa [List.append_nil]
      · simpa [Numeral.decimal] using hvalue
  | pointed hwhole hne hfraction hvalue =>
      refine ⟨_, .pointed hsign (hdecimal hwhole) (hdecimal hfraction) hne, rfl, ?_, hvalue⟩
      exact Text.within_append.mpr ⟨hwhole, hfraction⟩

/-- A text of digits opens a literal behind every sign. -/
theorem Written.opens
    {text sign : List Char} {d : Decimal} {negative : Bool}
    (h : Written text d)
    (hsign : Numeral.Sign sign negative)
    (rest : List Char) :
    Literal.Opens (sign ++ text ++ rest) := by
  obtain ⟨c, tail, htext, hc⟩ :
      ∃ c tail, text = c :: tail ∧ c.isDigit = true := by
    cases h with
    | whole hwhole hne hvalue =>
        obtain ⟨c, tail, rfl⟩ := List.exists_cons_of_ne_nil hne
        exact ⟨c, tail, rfl, (Text.within_cons.mp hwhole).1⟩
    | pointed hwhole hne hfraction hvalue =>
        obtain ⟨c, tail, rfl⟩ := List.exists_cons_of_ne_nil hne
        exact ⟨c, _, List.cons_append, (Text.within_cons.mp hwhole).1⟩
  exact ⟨sign, negative, c, tail ++ rest, hsign, Or.inl hc, by simp [htext]⟩

end Decimal

namespace NumberStyle

open Decimal

/-- A decimal by position is a text of its value. -/
theorem written_positional
    (style : NumberStyle)
    (d : Decimal) :
    Written (style.positional d) d := by
  obtain ⟨digits, exponent⟩ := d
  by_cases hplaces : (-exponent).toNat = 0
  · have hwhole :
        Text.Within Char.isDigit (text digits ++ List.replicate exponent.toNat '0') :=
      Text.within_append.mpr ⟨within_text digits, within_zeros exponent.toNat⟩
    have hne : text digits ++ List.replicate exponent.toNat '0' ≠ [] :=
      List.append_ne_nil_of_left_ne_nil (text_ne_nil digits) _
    have hvalue := value_text_zeros digits hplaces
    rcases hpoint : style.wholePoint with _ | _
    · simpa [positional, hplaces, hpoint] using Written.whole hwhole hne hvalue
    · have htenth :
          value
              ⟨read (text digits ++ List.replicate exponent.toNat '0' ++
                List.replicate 1 '0'), -(1 : Nat)⟩ =
            value ⟨digits, exponent⟩ := by
        rw [read_append_zeros, value_pow_ten_mul]
        exact hvalue
      simpa [positional, hplaces, hpoint] using
        Written.pointed hwhole hne (within_zeros 1) htenth
  have hnonempty := List.length_pos_of_ne_nil (text_ne_nil digits)
  by_cases hinside : (-exponent).toNat < (text digits).length
  · have hsplit :=
      List.take_append_drop ((text digits).length - (-exponent).toNat) (text digits)
    have hdigits := within_text digits
    rw [← hsplit, Text.within_append] at hdigits
    have hwritten :
        Written
          ((text digits).take ((text digits).length - (-exponent).toNat) ++
            '.' :: (text digits).drop ((text digits).length - (-exponent).toNat))
          ⟨digits, exponent⟩ := by
      refine written_of_fraction hdigits.1 ?_ hdigits.2 ?_ ?_ hplaces
      · rw [← List.length_pos_iff, List.length_take]
        omega
      · rw [hsplit, read_text]
      · rw [List.length_drop]
        omega
    simpa [positional, hplaces, hinside] using hwritten
  · have hwritten :
        Written
          (['0'] ++
            '.' :: (List.replicate ((-exponent).toNat - (text digits).length) '0' ++
              text digits))
          ⟨digits, exponent⟩ := by
      refine written_of_fraction (within_zeros 1) (by decide) ?_ ?_ ?_ hplaces
      · exact Text.within_append.mpr ⟨within_zeros _, within_text digits⟩
      · exact read_zeros_text ((-exponent).toNat - (text digits).length + 1) digits
      · rw [List.length_append, List.length_replicate]
        omega
    simpa [positional, hplaces, hinside] using hwritten

end NumberStyle

namespace NumberStyle

/-- A finite number is written as its shortest decimal behind its sign. -/
theorem number_of_isFinite
    (style : NumberStyle)
    {x : Binary64}
    (h : x.isFinite = true) :
    style.number x =
      (if x.negative then ['-'] else []) ++
        style.decimal (Decimal.shortest style.tie x.magnitude) := by
  have hfinite : x.magnitude < Binary64.infinite := of_decide_eq_true h
  have hnumber : x.isNaN = false := decide_eq_false (Nat.lt_asymm hfinite)
  rw [number, hnumber, h]
  rfl

end NumberStyle

namespace Content

/-- Only a negative number has a sign in its text. -/
theorem sign_of_negative
    (x : Binary64) :
    Numeral.Sign (if x.negative then ['-'] else []) x.negative := by
  cases x.negative with
  | false => exact .absent
  | true => exact .minus

/-- The text of a finite number is a numeral that denotes the number, bit for bit. -/
theorem numeral_of_isFinite
    {x : Binary64}
    (h : x.isFinite = true) :
    ∃ numeral : Numeral,
      Numeral.Spelling (amountStyle.number x) numeral ∧ numeral.Denotes x := by
  obtain ⟨numeral, hspelling, hnegative, hdigits, hvalue⟩ :=
    (amountStyle.written_positional (Decimal.shortest .upward x.magnitude)).numeral
      (sign_of_negative x)
  refine ⟨numeral, ?_, Numeral.denotes_iff.mpr ⟨hdigits, h, ?_⟩⟩
  · rwa [amountStyle.number_of_isFinite h]
  · rw [hnegative]
    exact (Binary64.ofDecimal_eq ((Binary64.nearest_eq_of_value_eq hvalue).trans
      (Decimal.nearest_shortest .upward (of_decide_eq_true h)))).symm

/-- The text of a finite number opens a literal. -/
theorem opens_number
    {x : Binary64}
    (h : x.isFinite = true)
    (rest : List Char) :
    Literal.Opens (amountStyle.number x ++ rest) := by
  rw [amountStyle.number_of_isFinite h]
  exact (amountStyle.written_positional (Decimal.shortest .upward x.magnitude)).opens
    (sign_of_negative x) rest

end Content
end LayoutRules
