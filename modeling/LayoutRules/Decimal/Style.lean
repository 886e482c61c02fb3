import LayoutRules.Decimal.Shortest

/-!
# Styles of number text

All number texts share the shortest digits and differ in four decisions: how
far numbers are written by position, whether a positive exponent carries its
sign, whether a whole number keeps a point, and which of two equally near
decimals is taken.
-/

namespace LayoutRules

/-- When a number leaves positional writing, and how its exponent is then written. -/
structure Scientific where
  least : Int
  greatest : Int
  plus : Bool
deriving DecidableEq, Repr

/-- One way to write numbers. -/
structure NumberStyle where
  scientific : Option Scientific
  wholePoint : Bool
  tie : Tie
deriving DecidableEq, Repr

namespace NumberStyle

/-- Digits before and after the point, which is written where it is needed. -/
def positional
    (style : NumberStyle)
    (d : Decimal) :
    List Char :=
  let digits := Decimal.text d.digits
  let whole := digits ++ List.replicate d.exponent.toNat '0'
  let places := (-d.exponent).toNat
  if places = 0 then
    if style.wholePoint then whole ++ ['.', '0'] else whole
  else if places < digits.length then
    digits.take (digits.length - places) ++
      '.' :: digits.drop (digits.length - places)
  else
    '0' :: '.' :: (List.replicate (places - digits.length) '0' ++ digits)

/-- One digit before the point and the power of ten behind an e. -/
def exponential
    (form : Scientific)
    (d : Decimal) :
    List Char :=
  let significand :=
    match Decimal.text d.digits with
    | [] => []
    | [digit] => [digit]
    | digit :: rest => digit :: '.' :: rest
  let sign :=
    if d.leading < 0 then ['-'] else if form.plus then ['+'] else []
  significand ++ 'e' :: (sign ++ Decimal.text d.leading.natAbs)

/-- The text of a decimal, with no sign. -/
def decimal
    (style : NumberStyle)
    (d : Decimal) :
    List Char :=
  match style.scientific with
  | none => style.positional d
  | some form =>
      if form.least ≤ d.leading ∧ d.leading ≤ form.greatest then
        style.positional d
      else
        exponential form d

/-- The text of a number. The sign of a zero is written, that of a NaN is not. -/
def number
    (style : NumberStyle)
    (x : Binary64) :
    List Char :=
  if x.isNaN then
    ['N', 'a', 'N']
  else
    let sign := if x.negative then ['-'] else []
    if x.isFinite then
      sign ++ style.decimal (Decimal.shortest style.tie x.magnitude)
    else
      sign ++ ['i', 'n', 'f']

end NumberStyle
end LayoutRules
