import LayoutRules.Literal
import LayoutRules.Proofs.Text.Runs

/-!
# The texts of numerals and components

A numeral is an optional sign with digits on at least one side of a point,
and a component is a numeral with a mark behind it. Both grammars are given as
relations between a text and what it writes, and the readers are shown to
accept exactly these texts.
-/

namespace LayoutRules

namespace Numeral

/-- The sign that may stand in front of a numeral. -/
inductive Sign : List Char → Bool → Prop
  | absent : Sign [] false
  | plus : Sign ['+'] false
  | minus : Sign ['-'] true

/-- The texts [+-]?(D+(.D*)?|.D+) of numerals, D being a decimal digit of any script. -/
inductive Spelling : List Char → Numeral → Prop
  | whole
      {sign whole : List Char} {negative : Bool}
      (hsign : Sign sign negative)
      (hwhole : Text.Within Text.isDecimalDigit whole)
      (hne : whole ≠ []) :
      Spelling (sign ++ whole) ⟨negative, whole, []⟩
  | pointed
      {sign whole fraction : List Char} {negative : Bool}
      (hsign : Sign sign negative)
      (hwhole : Text.Within Text.isDecimalDigit whole)
      (hfraction : Text.Within Text.isDecimalDigit fraction)
      (hne : whole ≠ []) :
      Spelling (sign ++ (whole ++ '.' :: fraction)) ⟨negative, whole, fraction⟩
  | fraction
      {sign fraction : List Char} {negative : Bool}
      (hsign : Sign sign negative)
      (hfraction : Text.Within Text.isDecimalDigit fraction)
      (hne : fraction ≠ []) :
      Spelling (sign ++ '.' :: fraction) ⟨negative, [], fraction⟩

/-- The signs are the characters that a numeral's digits follow. -/
def isSign (c : Char) : Bool :=
  c == '+' || c == '-'

theorem isSign_eq_false_of_isDecimalDigit
    {c : Char}
    (h : Text.isDecimalDigit c = true) :
    isSign c = false := by
  have hplus : c ≠ '+' := by
    rintro rfl
    exact absurd h (by decide)
  have hminus : c ≠ '-' := by
    rintro rfl
    exact absurd h (by decide)
  simp [isSign, hplus, hminus]

theorem unsigned_of_stops
    {text : List Char}
    (h : Text.Stops isSign text) :
    unsigned text = text ∧ isNegative text = false := by
  cases text with
  | nil => exact ⟨rfl, rfl⟩
  | cons c rest =>
      have hc : c ≠ '+' ∧ c ≠ '-' := by simpa [isSign] using h
      simp [unsigned, isNegative, hc.1, hc.2]

/-- Behind a sign, or none, the text is what is left without it. -/
theorem Sign.unsigned_append
    {sign text : List Char} {negative : Bool}
    (hsign : Sign sign negative)
    (h : Text.Stops isSign text) :
    unsigned (sign ++ text) = text ∧ isNegative (sign ++ text) = negative := by
  cases hsign with
  | absent => exact unsigned_of_stops h
  | plus => exact ⟨rfl, rfl⟩
  | minus => exact ⟨rfl, rfl⟩

/-- Every text is a sign, or none, and the text behind it. -/
theorem exists_sign
    (text : List Char) :
    ∃ sign, Sign sign (isNegative text) ∧ text = sign ++ unsigned text := by
  cases text with
  | nil => exact ⟨[], Sign.absent, rfl⟩
  | cons c rest =>
      by_cases hsign : isSign c = true
      · rcases (by simpa [isSign] using hsign : c = '+' ∨ c = '-') with rfl | rfl
        · exact ⟨['+'], Sign.plus, rfl⟩
        · exact ⟨['-'], Sign.minus, rfl⟩
      · have hstops : Text.Stops isSign (c :: rest) := by simpa using hsign
        obtain ⟨hunsigned, hnegative⟩ := unsigned_of_stops hstops
        rw [hunsigned, hnegative]
        exact ⟨[], Sign.absent, rfl⟩

/-- Digits with a point behind them are read together with the digits behind the point. -/
theorem read?_of_point
    {text whole fraction rest : List Char}
    (htext : unsigned text = whole ++ '.' :: (fraction ++ rest))
    (hwhole : Text.Within Text.isDecimalDigit whole)
    (hfraction : Text.Within Text.isDecimalDigit fraction)
    (hrest : Text.Stops Text.isDecimalDigit rest) :
    read? text =
      if whole.isEmpty && fraction.isEmpty then
        none
      else
        some (⟨isNegative text, whole, fraction⟩, rest) := by
  have htail : Text.Stops Text.isDecimalDigit ('.' :: (fraction ++ rest)) :=
    Text.stops_cons.mpr (by decide)
  simp only [read?, htext, Text.takeWhile_append hwhole htail,
    Text.dropWhile_append hwhole htail, Text.takeWhile_append hfraction hrest,
    Text.dropWhile_append hfraction hrest]

/-- Digits with no point behind them are read as a whole number. -/
theorem read?_of_plain
    {text whole rest : List Char}
    (htext : unsigned text = whole ++ rest)
    (hwhole : Text.Within Text.isDecimalDigit whole)
    (hdigit : Text.Stops Text.isDecimalDigit rest)
    (hpoint : Text.Stops (· == '.') rest) :
    read? text =
      if whole.isEmpty then
        none
      else
        some (⟨isNegative text, whole, []⟩, rest) := by
  simp only [read?, htext, Text.takeWhile_append hwhole hdigit,
    Text.dropWhile_append hwhole hdigit]
  split
  · next tail =>
      exact absurd (Text.stops_cons.mp hpoint) (by decide)
  · rfl

/-- The digits of a numeral and its point are no sign. -/
theorem stops_isSign_digits
    {whole rest : List Char}
    (hwhole : Text.Within Text.isDecimalDigit whole)
    (hrest : Text.Stops isSign rest) :
    Text.Stops isSign (whole ++ rest) :=
  hwhole.stops_append hrest fun _ => isSign_eq_false_of_isDecimalDigit

theorem stops_isSign_point
    (rest : List Char) :
    Text.Stops isSign ('.' :: rest) :=
  Text.stops_cons.mpr (by decide)

/-- A numeral is read as far as its digits and its point go. -/
theorem Spelling.read?_append
    {front rest : List Char} {numeral : Numeral}
    (hfront : Spelling front numeral)
    (hdigit : Text.Stops Text.isDecimalDigit rest)
    (hpoint : Text.Stops (· == '.') rest) :
    read? (front ++ rest) = some (numeral, rest) := by
  cases hfront with
  | @whole sign whole negative hsign hwhole hne =>
      have hdigits : Text.Stops isSign (whole ++ rest) := by
        cases whole with
        | nil => exact absurd rfl hne
        | cons c digits =>
            exact Text.stops_cons.mpr
              (isSign_eq_false_of_isDecimalDigit (Text.within_cons.mp hwhole).1)
      obtain ⟨hunsigned, hnegative⟩ := hsign.unsigned_append hdigits
      rw [List.append_assoc, read?_of_plain hunsigned hwhole hdigit hpoint, hnegative]
      simp [hne]
  | @pointed sign whole fraction negative hsign hwhole hfraction hne =>
      have hdigits : Text.Stops isSign (whole ++ '.' :: (fraction ++ rest)) :=
        stops_isSign_digits hwhole (stops_isSign_point (fraction ++ rest))
      obtain ⟨hunsigned, hnegative⟩ := hsign.unsigned_append hdigits
      have htext :
          sign ++ (whole ++ '.' :: fraction) ++ rest =
            sign ++ (whole ++ '.' :: (fraction ++ rest)) := by
        simp
      rw [htext, read?_of_point hunsigned hwhole hfraction hdigit, hnegative]
      simp [hne]
  | @fraction sign fraction negative hsign hfraction hne =>
      obtain ⟨hunsigned, hnegative⟩ :=
        hsign.unsigned_append (stops_isSign_point (fraction ++ rest))
      have htext :
          sign ++ '.' :: fraction ++ rest = sign ++ '.' :: (fraction ++ rest) := by
        simp
      rw [htext, read?_of_point hunsigned Text.within_nil hfraction hdigit, hnegative]
      simp [hne]

/-- What is read is a numeral's text at the start of the text. -/
theorem exists_spelling_of_read?
    {text rest : List Char} {numeral : Numeral}
    (h : read? text = some (numeral, rest)) :
    ∃ front, text = front ++ rest ∧ Spelling front numeral := by
  obtain ⟨sign, hsign, htext⟩ := exists_sign text
  have hwhole := Text.within_takeWhile Text.isDecimalDigit (unsigned text)
  have htail := Text.stops_dropWhile Text.isDecimalDigit (unsigned text)
  have hsplit :=
    (List.takeWhile_append_dropWhile (p := Text.isDecimalDigit) (l := unsigned text)).symm
  generalize (unsigned text).takeWhile Text.isDecimalDigit = whole at hwhole hsplit
  generalize (unsigned text).dropWhile Text.isDecimalDigit = tail at htail hsplit
  by_cases hpoint : Text.Stops (· == '.') tail
  · rw [read?_of_plain hsplit hwhole htail hpoint] at h
    split at h
    · cases h
    · next hne =>
        obtain ⟨rfl, rfl⟩ := Prod.mk.inj (Option.some.inj h)
        refine ⟨sign ++ whole, ?_, Spelling.whole hsign hwhole (by simpa using hne)⟩
        rw [htext, hsplit, List.append_assoc]
  · obtain ⟨behind, rfl⟩ : ∃ behind, tail = '.' :: behind := by
      cases tail with
      | nil => exact absurd Text.stops_nil hpoint
      | cons c behind => exact ⟨behind, by simpa using hpoint⟩
    have hfraction := Text.within_takeWhile Text.isDecimalDigit behind
    have hrest := Text.stops_dropWhile Text.isDecimalDigit behind
    have hbehind :=
      (List.takeWhile_append_dropWhile (p := Text.isDecimalDigit) (l := behind)).symm
    generalize behind.takeWhile Text.isDecimalDigit = fraction at hfraction hbehind
    generalize behind.dropWhile Text.isDecimalDigit = remainder at hrest hbehind
    subst hbehind
    rw [read?_of_point hsplit hwhole hfraction hrest] at h
    split at h
    · cases h
    · next hne =>
        obtain ⟨rfl, rfl⟩ := Prod.mk.inj (Option.some.inj h)
        cases whole with
        | nil =>
            refine ⟨sign ++ '.' :: fraction, ?_,
              Spelling.fraction hsign hfraction (by simpa using hne)⟩
            simpa [hsplit] using htext
        | cons c digits =>
            refine ⟨sign ++ (c :: digits ++ '.' :: fraction), ?_,
              Spelling.pointed hsign hwhole hfraction (List.cons_ne_nil c digits)⟩
            simpa [hsplit] using htext

end Numeral

end LayoutRules
