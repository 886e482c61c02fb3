import LayoutRules.Json.Printer
import LayoutRules.Proofs.Json.Grammar
import LayoutRules.Proofs.Literal.Amount

/-!
# The numbers of documents

A natural is written by its digits, and no zero stands in front of them. A
binary64 number is always written with a point or a power of ten, so it is not
taken for a natural, and it is the number nearest to its text.
-/

namespace LayoutRules

namespace Decimal

/-- The canonical zero has the exponent zero. -/
theorem exponent_canonical
    {digits : Nat} {exponent : Int}
    (h : (canonical digits exponent).digits = 0) :
    (canonical digits exponent).exponent = 0 := by
  fun_induction canonical digits exponent with
  | case1 exponent => rfl
  | case2 digits exponent hzero hten ih => exact ih h
  | case3 digits exponent hzero hten => exact absurd h hzero

theorem exponent_shortest
    {tie : Tie} {magnitude : Nat}
    (h : (shortest tie magnitude).digits = 0) :
    (shortest tie magnitude).exponent = 0 :=
  exponent_canonical h

/-- The digits of a natural that is not zero begin with another digit. -/
theorem exists_cons_text
    {n : Nat}
    (h : n ≠ 0) :
    ∃ digit rest, text n = digit :: rest ∧ digit ≠ '0' := by
  induction n using Nat.strong_induction_on with
  | _ n ih =>
      by_cases hlt : n < 10
      · refine ⟨n.digitChar, [], Nat.toDigits_of_lt_base hlt, ?_⟩
        rwa [Ne, Nat.digitChar_eq_zero]
      · obtain ⟨digit, rest, htext, hne⟩ := ih (n / 10) (by omega) (by omega)
        refine ⟨digit, rest ++ [Nat.digitChar (n % 10)], ?_, hne⟩
        rw [text, Nat.toDigits_of_base_le (by decide) (Nat.le_of_not_lt hlt)]
        exact congrArg (· ++ [Nat.digitChar (n % 10)]) htext

/-- A text that a point parts into digits has the value of these digits. -/
theorem Written.value_eq
    {whole fraction : List Char} {d : Decimal}
    (h : Written (whole ++ '.' :: fraction) d)
    (hwhole : Text.Within Char.isDigit whole) :
    value ⟨read (whole ++ fraction), -fraction.length⟩ = d.value := by
  have hpoint {rest : List Char} : Text.Stops Char.isDigit ('.' :: rest) :=
    Text.stops_cons.mpr (by decide)
  generalize htext : whole ++ '.' :: fraction = text at h
  cases h with
  | whole hdigits hne hvalue =>
      rw [← htext] at hdigits
      exact absurd (Text.within_cons.mp (Text.within_append.mp hdigits).2).1 (by decide)
  | pointed hwhole' hne hfraction hvalue =>
      obtain ⟨rfl, htail⟩ := Text.split_unique hwhole hwhole' hpoint hpoint htext
      obtain rfl := (List.cons.inj htail).2
      exact hvalue

end Decimal

namespace Json
namespace Number

open Decimal

/-- Digits that begin with another digit than zero may go on with any digits. -/
theorem isWhole_text_append
    {n : Nat} {digits : List Char}
    (h : n ≠ 0)
    (hdigits : Text.Within Char.isDigit digits) :
    IsWhole (text n ++ digits) := by
  obtain ⟨digit, rest, htext, hne⟩ := exists_cons_text h
  have hwithin := within_text n
  rw [htext, Text.within_cons] at hwithin
  rw [htext]
  exact .digits hwithin.1 hne (Text.within_append.mpr ⟨hwithin.2, hdigits⟩)

theorem isWhole_text
    (n : Nat) :
    IsWhole (text n) := by
  by_cases h : n = 0
  · rw [h]
    exact .zero
  · have hwhole := isWhole_text_append h Text.within_nil
    rwa [List.append_nil] at hwhole

/-- The front digits of a natural that is not zero. -/
theorem isWhole_take_text
    {n count : Nat}
    (h : n ≠ 0)
    (hcount : count ≠ 0) :
    IsWhole ((text n).take count) := by
  obtain ⟨digit, rest, htext, hne⟩ := exists_cons_text h
  obtain ⟨front, rfl⟩ := Nat.exists_eq_succ_of_ne_zero hcount
  have hwithin := within_text n
  rw [htext, Text.within_cons] at hwithin
  rw [htext]
  exact .digits hwithin.1 hne fun c hc => hwithin.2 c (List.mem_of_mem_take hc)

theorem pointed_of_ne_nil
    {fraction : List Char}
    (h : fraction ≠ []) :
    pointed fraction = '.' :: fraction := by
  cases fraction with
  | nil => exact absurd rfl h
  | cons digit rest => rfl

/-- Where whole numbers keep a point, a decimal by position has digits on both sides of one. -/
theorem exists_positional
    {style : NumberStyle} {d : Decimal}
    (hpoint : style.wholePoint = true)
    (hzero : d.digits = 0 → d.exponent = 0) :
    ∃ whole fraction,
      style.positional d = whole ++ '.' :: fraction ∧
      IsWhole whole ∧
      Text.Within Char.isDigit fraction ∧
      fraction ≠ [] := by
  obtain ⟨digits, exponent⟩ := d
  by_cases hplaces : (-exponent).toNat = 0
  · refine ⟨text digits ++ List.replicate exponent.toNat '0', ['0'],
      by simp [NumberStyle.positional, hplaces, hpoint], ?_, within_zeros 1, by decide⟩
    by_cases hdigits : digits = 0
    · obtain rfl : exponent = 0 := hzero hdigits
      rw [hdigits]
      exact .zero
    · exact isWhole_text_append hdigits (within_zeros exponent.toNat)
  have hdigits : digits ≠ 0 := by
    intro hdigits
    obtain rfl : exponent = 0 := hzero hdigits
    exact hplaces rfl
  by_cases hinside : (-exponent).toNat < (text digits).length
  · refine ⟨(text digits).take ((text digits).length - (-exponent).toNat),
      (text digits).drop ((text digits).length - (-exponent).toNat),
      by simp [NumberStyle.positional, hplaces, hinside],
      isWhole_take_text hdigits (by omega), ?_, ?_⟩
    · exact fun c hc => within_text digits c (List.mem_of_mem_drop hc)
    · rw [← List.length_pos_iff, List.length_drop]
      omega
  · refine ⟨['0'],
      List.replicate ((-exponent).toNat - (text digits).length) '0' ++ text digits,
      by simp [NumberStyle.positional, hplaces, hinside], .zero, ?_, ?_⟩
    · exact Text.within_append.mpr ⟨within_zeros _, within_text digits⟩
    · exact List.append_ne_nil_of_right_ne_nil _ (text_ne_nil digits)

/-- The sign of an exponent tells what its digits denote. -/
theorem exponent_eq
    {mark : Char} {sign : List Char} {negative : Bool} {n : Nat}
    (hsign : Numeral.Sign sign negative) :
    exponent (mark :: (sign ++ text n)) = if negative then -(n : Int) else n := by
  have hdigits : Text.Stops Numeral.isSign (text n) := by
    have hstops := Numeral.stops_isSign_digits
      (fun c hc => Text.isDecimalDigit_of_isDigit (within_text n c hc)) Text.stops_nil
    rwa [List.append_nil] at hstops
  obtain ⟨hunsigned, hnegative⟩ := hsign.unsigned_append hdigits
  simp only [exponent, hunsigned, hnegative, read_text]

/-- The parts of a number that stand for a decimal behind a sign, and for no natural. -/
structure Denotes
    (number : Number)
    (negative : Bool)
    (text : List Char)
    (d : Decimal) :
    Prop where
  isNumber : number.IsNumber
  sign : number.negative = negative
  notNatural : number.isNatural = false
  characters : number.characters = (if negative then ['-'] else []) ++ text
  value : number.decimal.value = d.value

theorem exists_denotes_positional
    {style : NumberStyle} {d : Decimal}
    (negative : Bool)
    (hpoint : style.wholePoint = true)
    (hzero : d.digits = 0 → d.exponent = 0) :
    ∃ number : Number, number.Denotes negative (style.positional d) d := by
  obtain ⟨whole, fraction, htext, hwhole, hfraction, hne⟩ := exists_positional hpoint hzero
  have hwritten := style.written_positional d
  rw [htext] at hwritten
  refine ⟨⟨negative, whole, fraction, []⟩, ⟨hwhole, hfraction, .absent⟩, rfl, ?_, ?_, ?_⟩
  · simp [isNatural, hne]
  · rw [htext, characters, pointed_of_ne_nil hne, List.append_nil]
  · rw [← hwritten.value_eq hwhole.within, decimal, exponent, Int.zero_sub]

/-- A decimal by powers of ten: a point behind its first digit, and the power of that digit. -/
theorem exists_exponential
    (form : Scientific)
    (d : Decimal) :
    ∃ digit rest sign,
      text d.digits = digit :: rest ∧
      Numeral.Sign sign (decide (d.leading < 0)) ∧
      NumberStyle.exponential form d =
        digit :: (pointed rest ++ 'e' :: (sign ++ text d.leading.natAbs)) := by
  obtain ⟨digit, rest, htext⟩ := List.exists_cons_of_ne_nil (text_ne_nil d.digits)
  refine ⟨digit, rest, if d.leading < 0 then ['-'] else if form.plus then ['+'] else [], htext,
    ?_, ?_⟩
  · by_cases hlt : d.leading < 0
    · simpa [hlt] using Numeral.Sign.minus
    · cases hplus : form.plus with
      | false => simpa [hlt] using Numeral.Sign.absent
      | true => simpa [hlt] using Numeral.Sign.plus
  · rw [NumberStyle.exponential, htext]
    cases rest <;> rfl

/-- A sign and the digits of an integer's size are read as that integer. -/
theorem exponent_natAbs
    {mark : Char} {sign : List Char} {n : Int}
    (hsign : Numeral.Sign sign (decide (n < 0))) :
    exponent (mark :: (sign ++ text n.natAbs)) = n := by
  rw [exponent_eq hsign]
  by_cases hlt : n < 0
  · simp only [hlt, decide_true, if_true]
    omega
  · simp only [hlt, decide_false, Bool.false_eq_true, if_false]
    omega

theorem exists_denotes_exponential
    (form : Scientific)
    (negative : Bool)
    (d : Decimal) :
    ∃ number : Number, number.Denotes negative (NumberStyle.exponential form d) d := by
  obtain ⟨digit, rest, sign, htext, hsign, hspelled⟩ := exists_exponential form d
  have hwithin := within_text d.digits
  rw [htext, Text.within_cons] at hwithin
  have hwhole : IsWhole [digit] := by
    by_cases hdigit : digit = '0'
    · rw [hdigit]
      exact .zero
    · exact .digits hwithin.1 hdigit Text.within_nil
  refine ⟨⟨negative, [digit], rest, 'e' :: (sign ++ text d.leading.natAbs)⟩,
    ⟨hwhole, hwithin.2,
      .present (Or.inl rfl) hsign (within_text d.leading.natAbs) (text_ne_nil d.leading.natAbs)⟩,
    rfl, ?_, ?_, ?_⟩
  · simp [isNatural]
  · rw [hspelled]
    rfl
  · -- The point behind the first digit takes back what the power adds.
    have hlength : (Decimal.length d.digits : Int) = rest.length + 1 := by
      rw [Decimal.length, htext, List.length_cons, Nat.cast_add, Nat.cast_one]
    have hleading : d.leading = rest.length + d.exponent := by
      rw [leading, hlength]
      omega
    have hdecimal :
        (⟨read (text d.digits), d.leading - rest.length⟩ : Decimal) = d := by
      rw [read_text, hleading, add_sub_cancel_left]
    rw [decimal, exponent_natAbs hsign, List.singleton_append, ← htext]
    exact congrArg value hdecimal

end Number

/-- The digits of a natural are a text of it. -/
theorem Scalar.spelling_natural
    (n : Nat) :
    Scalar.Spelling (Decimal.text n) (.natural n) := by
  let number : Number := ⟨false, Decimal.text n, [], []⟩
  have hvalue : number.value? = some (.natural n) :=
    congrArg (some ∘ Value.natural) (Decimal.read_text n)
  have hspelling :=
    Scalar.Spelling.number (Number.IsNumber.mk (Number.isWhole_text n) Text.within_nil .absent)
      hvalue
  simpa [number, Number.characters, Number.pointed] using hspelling

/-- The text of a finite number is a text of that very number. -/
theorem Scalar.spelling_number
    {x : Binary64}
    (h : x.isFinite = true) :
    Scalar.Spelling (numberStyle.number x) (.number x) := by
  obtain ⟨number, hnumber⟩ :
      ∃ number : Number,
        number.Denotes x.negative (numberStyle.decimal (Decimal.shortest .even x.magnitude))
          (Decimal.shortest .even x.magnitude) := by
    unfold NumberStyle.decimal
    split
    case h_1 hnone => cases hnone
    case h_2 form hform =>
      split
      case isTrue =>
        exact Number.exists_denotes_positional _ rfl Decimal.exponent_shortest
      case isFalse =>
        exact Number.exists_denotes_exponential form _ _
  have hnearest : number.nearest = x := by
    rw [Number.nearest, hnumber.sign]
    exact Binary64.ofDecimal_eq ((Binary64.nearest_eq_of_value_eq hnumber.value).trans
      (Decimal.nearest_shortest .even (of_decide_eq_true h)))
  have hvalue : number.value? = some (.number x) := by
    rw [Number.value?, hnumber.notNatural, hnearest, h]
    rfl
  rw [numberStyle.number_of_isFinite h]
  exact hnumber.characters ▸ .number hnumber.isNumber hvalue

end Json
end LayoutRules
