import LayoutRules.Content

/-!
# Tokens

A token is one piece of a rule, or the finish that follows the last one. The
numbers and the kinds of tokens have tables of their own, which agree with
those of the categories.
-/

namespace LayoutRules

/-- What a source of rules delivers. -/
inductive Token where
  | piece (content : Content)
  | finish
deriving DecidableEq, Repr

namespace Token

/-- The number of a token. -/
def code : Token → Nat
  | .finish => 0
  | .piece (.operator .assign) => 61
  | .piece (.attr _) => 258
  | .piece (.amount .absolute _) => 259
  | .piece (.amount .own _) => 260
  | .piece (.amount .width _) => 261
  | .piece (.amount .height _) => 262
  | .piece (.coordinate .absolute _) => 263
  | .piece (.coordinate .own _) => 264
  | .piece (.coordinate .width _) => 265
  | .piece (.coordinate .height _) => 266
  | .piece .nil => 267
  | .piece (.operator .add) => 268
  | .piece (.operator .subtract) => 269
  | .piece (.operator .multiply) => 270
  | .piece (.operator .divide) => 271

/-- The token's category in the words of a diagnostic. -/
def describe : Token → String
  | .piece content => content.category.describe
  | .finish => "end of input"

/-- The token in the words of a diagnostic, with its text where that says more. -/
def label : Token → String
  | .piece content => content.label
  | .finish => "end of input"

/-- The text that stands for the token in a rule. -/
def text : Token → String
  | .piece content => content.text
  | .finish => ""

/-- The operator, if the token is one. -/
def operator? : Token → Option Operator
  | .piece (.operator op) => some op
  | _ => none

/-- Whether the token is an attribute. -/
def isAttribute : Token → Bool
  | .piece (.attr _) => true
  | _ => false

/-- Whether the token is an operator. -/
def isOperator : Token → Bool
  | .piece (.operator _) => true
  | _ => false

/-- Whether the token may stand to the right of an operator. -/
def isValue : Token → Bool
  | .piece (.amount _ _) => true
  | .piece (.coordinate _ _) => true
  | .piece .nil => true
  | _ => false

/-- The outline of a token. -/
def outline : Token → Text.Outline
  | .piece content => content.outline
  | .finish => .atom "Eof"

/-- A piece has the number of its category. -/
@[simp] theorem code_piece
    (content : Content) :
    (piece content).code = content.category.code := by
  cases content with
  | attr name => rfl
  | amount basis value => cases basis <;> rfl
  | coordinate basis text => cases basis <;> rfl
  | nil => rfl
  | operator op => cases op <;> rfl

@[simp] theorem operator?_piece
    (content : Content) :
    (piece content).operator? = content.operator? := by
  cases content <;> rfl

@[simp] theorem isOperator_piece
    (content : Content) :
    (piece content).isOperator = content.category.isOperator := by
  cases content <;> rfl

/-- The pieces listed as values are those that are neither operators nor attributes. -/
@[simp] theorem isValue_piece
    (content : Content) :
    (piece content).isValue = content.category.isValue := by
  cases content <;> rfl

end Token

end LayoutRules
