import LayoutRules.Basis
import LayoutRules.Operator

/-!
# Categories

A category is what a piece of a rule is, without its payload. Each has a
number, a name and a description, and the names tell the categories apart.
-/

namespace LayoutRules

/-- What a piece of a rule is. -/
inductive Category where
  | attr
  | amount (basis : Basis)
  | coordinate (basis : Basis)
  | nil
  | operator (op : Operator)
deriving DecidableEq, Repr

namespace Category

/-- Every category in the order of the operands, then the operators. -/
def all : List Category :=
  .attr :: Basis.all.map .amount ++ Basis.all.map .coordinate ++
    .nil :: Operator.all.map .operator

theorem mem_all
    (category : Category) :
    category ∈ all := by
  cases category with
  | attr => decide
  | amount basis => cases basis <;> decide
  | coordinate basis => cases basis <;> decide
  | nil => decide
  | operator op => cases op <;> decide

/-- The category's number; the plain assignment has that of its symbol. -/
def code : Category → Nat
  | .operator .assign => 61
  | .attr => 258
  | .amount .absolute => 259
  | .amount .own => 260
  | .amount .width => 261
  | .amount .height => 262
  | .coordinate .absolute => 263
  | .coordinate .own => 264
  | .coordinate .width => 265
  | .coordinate .height => 266
  | .nil => 267
  | .operator .add => 268
  | .operator .subtract => 269
  | .operator .multiply => 270
  | .operator .divide => 271

/-- The name by which documents and errors call the category. -/
def name : Category → String
  | .attr => "ATTR"
  | .amount .absolute => "NUMBER"
  | .amount .own => "PERCENTAGE"
  | .amount .width => "PERCENTAGE_H"
  | .amount .height => "PERCENTAGE_V"
  | .coordinate .absolute => "COORD"
  | .coordinate .own => "COORD_PERCENTAGE"
  | .coordinate .width => "COORD_PERCENTAGE_H"
  | .coordinate .height => "COORD_PERCENTAGE_V"
  | .nil => "NIL"
  | .operator .assign => "ASSIGN"
  | .operator .add => "ADD_ASSIGN"
  | .operator .subtract => "SUB_ASSIGN"
  | .operator .multiply => "MUL_ASSIGN"
  | .operator .divide => "DIV_ASSIGN"

/-- The name by which outlines call the category. -/
def tag : Category → String
  | .attr => "Attr"
  | .amount .absolute => "Number"
  | .amount .own => "Percentage"
  | .amount .width => "PercentageH"
  | .amount .height => "PercentageV"
  | .coordinate .absolute => "Coord"
  | .coordinate .own => "CoordPercentage"
  | .coordinate .width => "CoordPercentageH"
  | .coordinate .height => "CoordPercentageV"
  | .nil => "Nil"
  | .operator .assign => "Assign"
  | .operator .add => "AddAssign"
  | .operator .subtract => "SubAssign"
  | .operator .multiply => "MulAssign"
  | .operator .divide => "DivAssign"

/-- The category in the words of a diagnostic. -/
def describe : Category → String
  | .attr => "attribute"
  | .amount .absolute => "number"
  | .amount .own => "percentage"
  | .amount .width => "width percentage"
  | .amount .height => "height percentage"
  | .coordinate .absolute => "coordinate"
  | .coordinate .own => "percentage coordinate"
  | .coordinate .width => "width percentage coordinate"
  | .coordinate .height => "height percentage coordinate"
  | .nil => "nil"
  | .operator op => "'" ++ op.symbol ++ "'"

/-- Operators are the categories that take operands. -/
def isOperator : Category → Bool
  | .operator _ => true
  | _ => false

/-- Values are the operands that may stand to the right of an operator. -/
def isValue (category : Category) : Bool :=
  !category.isOperator && category != .attr

/-- The category with a given tag. -/
def ofTag? (tag : String) : Option Category :=
  all.find? fun category => category.tag == tag

/-- The names tell the categories apart. -/
theorem eq_of_name_eq
    {first second : Category}
    (h : first.name = second.name) :
    first = second := by
  have hall :
      ∀ a ∈ all, ∀ b ∈ all, a.name = b.name → a = b := by
    decide
  exact hall first (mem_all first) second (mem_all second) h

end Category

end LayoutRules
