import LayoutRules.Category
import LayoutRules.Decimal.Style
import LayoutRules.Text.Outline
import LayoutRules.Text.Quoted

/-!
# Contents

A content is a category with its payload: the name of an attribute, a number
on a basis, the text of a coordinate. It is what a piece of a rule says, and
what a node of a rule tree holds.
-/

namespace LayoutRules

/-- What a piece of a rule says. -/
inductive Content where
  | attr (name : String)
  | amount (basis : Basis) (value : Binary64)
  | coordinate (basis : Basis) (text : String)
  | nil
  | operator (op : Operator)
deriving DecidableEq, Repr

namespace Content

/-- The category of a content. -/
def category : Content → Category
  | .attr _ => .attr
  | .amount basis _ => .amount basis
  | .coordinate basis _ => .coordinate basis
  | .nil => .nil
  | .operator op => .operator op

/-- Amounts in rules are written by position, and whole ones without a point. -/
def amountStyle : NumberStyle where
  scientific := none
  wholePoint := false
  tie := .upward

/-- Amounts in outlines keep a point and have an exponent from 1e16 on and below 1e-4. -/
def outlineStyle : NumberStyle where
  scientific := some ⟨-4, 15, false⟩
  wholePoint := true
  tie := .upward

/-- The characters that stand for a content in a rule. -/
def characters : Content → List Char
  | .attr name => name.toList
  | .amount basis value => amountStyle.number value ++ basis.mark
  | .coordinate _ text => text.toList
  | .nil => ['n', 'i', 'l']
  | .operator .assign => ['=']
  | .operator .add => ['+', '=']
  | .operator .subtract => ['-', '=']
  | .operator .multiply => ['*', '=']
  | .operator .divide => ['/', '=']

@[simp] theorem characters_attr
    (name : String) :
    (Content.attr name).characters = name.toList :=
  rfl

@[simp] theorem characters_operator
    (op : Operator) :
    (Content.operator op).characters = op.characters := by
  cases op <;> rfl

/-- The text that stands for a content in a rule. -/
def text (content : Content) : String :=
  String.ofList content.characters

/-- The content in the words of a diagnostic, with its text where that says more. -/
def label (content : Content) : String :=
  match content with
  | .nil | .operator _ => content.category.describe
  | _ => content.category.describe ++ " '" ++ content.text ++ "'"

/-- Names and coordinate texts are kept in a buffer of their own. -/
def hasBuffer : Content → Bool
  | .attr _ => true
  | .coordinate _ _ => true
  | _ => false

/-- Contents agree in category and payload, and numbers as numbers. -/
def same : Content → Content → Bool
  | .attr first, .attr second => first == second
  | .amount firstBasis first, .amount secondBasis second =>
      firstBasis == secondBasis && first.same second
  | .coordinate firstBasis first, .coordinate secondBasis second =>
      firstBasis == secondBasis && first == second
  | .nil, .nil => true
  | .operator first, .operator second => first == second
  | _, _ => false

/-- The operator, if the content is one. -/
def operator? : Content → Option Operator
  | .operator op => some op
  | _ => none

/-- The attribute's name, if the content is an attribute. -/
def name? : Content → Option String
  | .attr name => some name
  | _ => none

/-- The number of plain units, if the content is one. -/
def number? : Content → Option Binary64
  | .amount .absolute value => some value
  | _ => none

/-- The percentage on any basis, if the content is one. -/
def percentage? : Content → Option Binary64
  | .amount .absolute _ => none
  | .amount _ value => some value
  | _ => none

/-- The coordinate's text on any basis, if the content is a coordinate. -/
def coordinate? : Content → Option String
  | .coordinate _ text => some text
  | _ => none

/-- Whether the content says that there is no value. -/
def isNil : Content → Bool
  | .nil => true
  | _ => false

/-- The payload of an outline, for the contents that have one. -/
def payloadOutline? : Content → Option Text.Outline
  | .attr name => some (.atom (Text.quoted name))
  | .amount _ value => some (.atom (String.ofList (outlineStyle.number value)))
  | .coordinate _ text => some (.atom (Text.quoted text))
  | .nil => none
  | .operator _ => none

/-- The outline of a content: its tag around its payload. -/
def outline (content : Content) : Text.Outline :=
  match content.payloadOutline? with
  | some payload => .wrapped content.category.tag payload
  | none => .atom content.category.tag

end Content

end LayoutRules
