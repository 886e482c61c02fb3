import LayoutRules.Binary64.Nearest
import LayoutRules.Content
import LayoutRules.Text.DecimalDigit

/-!
# Literals

A literal is one component, which denotes an amount, or two components
joined by a comma, which denote a coordinate. A component is a numeral with a
mark behind it.

The shape of a numeral admits the decimal digits of every script, its value
only those of ASCII. A coordinate is kept as it is written, so its numerals
need no value.
-/

namespace LayoutRules

/-- A numeral by its sign and the digits before and after its point. -/
structure Numeral where
  negative : Bool
  whole : List Char
  fraction : List Char
deriving DecidableEq, Repr

namespace Numeral

/-- The text behind a sign, or the whole text if it has none. -/
def unsigned : List Char → List Char
  | '+' :: rest => rest
  | '-' :: rest => rest
  | text => text

/-- Whether a text begins with a minus sign. -/
def isNegative : List Char → Bool
  | '-' :: _ => true
  | _ => false

/--
The longest numeral at the start of a text, and the text behind it. A numeral
has a digit, before its point or behind it.
-/
def read? (text : List Char) : Option (Numeral × List Char) :=
  let digits := unsigned text
  let whole := digits.takeWhile Text.isDecimalDigit
  match digits.dropWhile Text.isDecimalDigit with
  | '.' :: rest =>
      let fraction := rest.takeWhile Text.isDecimalDigit
      if whole.isEmpty && fraction.isEmpty then
        none
      else
        some (⟨isNegative text, whole, fraction⟩, rest.dropWhile Text.isDecimalDigit)
  | rest =>
      if whole.isEmpty then
        none
      else
        some (⟨isNegative text, whole, []⟩, rest)

/-- The decimal that a numeral of ASCII digits writes. -/
def decimal (numeral : Numeral) : Decimal :=
  ⟨Decimal.read (numeral.whole ++ numeral.fraction), -numeral.fraction.length⟩

/-- The nearest number, if the digits are those of ASCII and the number is finite. -/
def value? (numeral : Numeral) : Option Binary64 :=
  let value := Binary64.ofDecimal numeral.negative numeral.decimal
  if (numeral.whole ++ numeral.fraction).all Char.isDigit && value.isFinite then
    some value
  else
    none

end Numeral

/-- A numeral and the basis that its mark selects. -/
structure Component where
  numeral : Numeral
  basis : Basis
deriving DecidableEq, Repr

namespace Component

/-- The component that a whole text writes. -/
def ofList? (text : List Char) : Option Component :=
  match Numeral.read? text with
  | none => none
  | some (numeral, mark) =>
      match Basis.ofMark? mark with
      | none => none
      | some basis => some ⟨numeral, basis⟩

end Component

namespace Literal

/-- A digit of ASCII or a point opens a number. -/
def opensNumber (c : Char) : Bool :=
  c.isDigit || c == '.'

/-- A literal starts with a number, which a sign may precede. -/
def startsIn (text : List Char) : Bool :=
  match Numeral.unsigned text with
  | [] => false
  | c :: _ => opensNumber c

/-- A text before its first comma, and the text behind that comma if there is one. -/
def halves (text : List Char) : List Char × Option (List Char) :=
  match text.dropWhile (· != ',') with
  | [] => (text, none)
  | _ :: second => (text.takeWhile (· != ','), some second)

/-- What a literal denotes. -/
def content? (text : List Char) : Option Content :=
  match halves text with
  | (single, none) =>
      match Component.ofList? single with
      | none => none
      | some component =>
          component.numeral.value?.map (.amount component.basis)
  | (first, some second) =>
      match Component.ofList? first, Component.ofList? second with
      | some a, some b =>
          some (.coordinate (a.basis.join b.basis) (String.ofList text))
      | _, _ => none

end Literal

end LayoutRules
