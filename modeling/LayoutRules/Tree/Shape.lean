import LayoutRules.Tree.Basic

/-!
# The shape of a rule tree

A node is made of a content and its operands. An operator needs an attribute
on its left and a value on its right, and every other content stands alone.
What is refused is given back.
-/

namespace LayoutRules

/-- Why a content and its operands make no node. -/
inductive ShapeError where
  | arity (category : Category) (expected found : Nat)
  | leftNotAttribute (category found : Category)
  | rightNotValue (category found : Category)
deriving DecidableEq, Repr

namespace ShapeError

/-- The category of the content that was to be a node. -/
def category : ShapeError → Category
  | .arity category _ _ => category
  | .leftNotAttribute category _ => category
  | .rightNotValue category _ => category

/-- The error in words. -/
def message : ShapeError → String
  | .arity category expected found =>
      s!"{category.name} node takes {expected} children, got {found}"
  | .leftNotAttribute category found =>
      s!"left operand of {category.name} must be an attribute, got {found.name}"
  | .rightNotValue category found =>
      s!"right operand of {category.name} must be a value, got {found.name}"

end ShapeError

/-- A refused node: the reason, and what its operands gave back. -/
structure Refusal where
  error : ShapeError
  released : Released
deriving DecidableEq, Repr

namespace Tree

variable {δ : Type}

/-- The number of operands that are there. -/
def operandCount (left right : Option (Tree δ)) : Nat :=
  left.toList.length + right.toList.length

/--
The node of a content over its operands, with an empty slot. The number of
operands is looked at first, then the left one, then the right one.
-/
def assemble
    (content : Content)
    (left right : Option (Tree δ)) :
    Except ShapeError (Tree δ) :=
  let category := content.category
  if category.isOperator then
    match left, right with
    | some left, some right =>
        if left.category ≠ .attr then
          .error (.leftNotAttribute category left.category)
        else if !right.category.isValue then
          .error (.rightNotValue category right.category)
        else
          .ok (.branch content left right none)
    | left, right => .error (.arity category 2 (operandCount left right))
  else
    match left, right with
    | none, none => .ok (.leaf content none)
    | left, right => .error (.arity category 0 (operandCount left right))

/-- The node of a content over its operands, which a refusal gives back. -/
def create
    (content : Content)
    (left right : Option (Tree δ)) :
    Except Refusal (Tree δ) :=
  match assemble content left right with
  | .ok tree => .ok tree
  | .error e => .error ⟨e, releasedOf left + releasedOf right⟩

end Tree

end LayoutRules
