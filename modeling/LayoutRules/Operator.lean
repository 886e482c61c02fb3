/-!
# Operators

The five ways a rule changes its attribute. Each is written by one symbol
that ends in an equals sign, so no symbol begins another.
-/

namespace LayoutRules

/-- What a rule does to the attribute on its left. -/
inductive Operator where
  | assign
  | add
  | subtract
  | multiply
  | divide
deriving DecidableEq, Repr

namespace Operator

/-- Every operator, the plain assignment first. -/
def all : List Operator :=
  [.assign, .add, .subtract, .multiply, .divide]

/-- The characters of the symbol. -/
def characters : Operator → List Char
  | .assign => ['=']
  | .add => ['+', '=']
  | .subtract => ['-', '=']
  | .multiply => ['*', '=']
  | .divide => ['/', '=']

/-- The symbol that stands for the operator in a rule. -/
def symbol (op : Operator) : String :=
  String.ofList op.characters

/-- The operator's name alone. -/
def name : Operator → String
  | .assign => "Assign"
  | .add => "Add"
  | .subtract => "Subtract"
  | .multiply => "Multiply"
  | .divide => "Divide"

/-- The operator whose symbol a text begins with. -/
def ofStart? : List Char → Option Operator
  | '=' :: _ => some .assign
  | '+' :: '=' :: _ => some .add
  | '-' :: '=' :: _ => some .subtract
  | '*' :: '=' :: _ => some .multiply
  | '/' :: '=' :: _ => some .divide
  | _ => none

@[simp] theorem characters_ne_nil
    (op : Operator) :
    op.characters ≠ [] := by
  cases op <;> simp [characters]

/-- A symbol is recognized whatever follows it. -/
@[simp] theorem ofStart?_append
    (op : Operator)
    (rest : List Char) :
    ofStart? (op.characters ++ rest) = some op := by
  cases op <;> rfl

/-- A recognized operator's symbol is what the text begins with. -/
theorem eq_append_of_ofStart?
    {text : List Char} {op : Operator}
    (h : ofStart? text = some op) :
    text = op.characters ++ text.drop op.characters.length := by
  unfold ofStart? at h
  split at h <;> simp_all <;> subst h <;> rfl

end Operator

end LayoutRules
