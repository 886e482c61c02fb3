import LayoutRules.Token
import LayoutRules.Tree.Shape

/-!
# The tree of a rule's three parts

A whole rule has a name, an operator and a value, and its tree is an operator
over two leaves. The tokens of a rule are told apart by what they carry.
-/

namespace LayoutRules

theorem Content.operator?_eq_none_iff
    {content : Content} :
    content.operator? = none ↔ content.category.isOperator = false := by
  cases content <;> simp [operator?, category, Category.isOperator]

namespace Token

theorem isAttribute_iff
    {token : Token} :
    token.isAttribute = true ↔ ∃ name, token = .piece (.attr name) := by
  constructor
  · intro h
    match token, h with
    | .piece (.attr name), _ => exact ⟨name, rfl⟩
  · rintro ⟨name, rfl⟩
    rfl

theorem operator?_eq_some_iff
    {token : Token} {op : Operator} :
    token.operator? = some op ↔ token = .piece (.operator op) := by
  constructor
  · intro h
    match token, h with
    | .piece (.operator _), rfl => rfl
  · rintro rfl
    rfl

theorem operator?_eq_none_iff
    {token : Token} :
    token.operator? = none ↔ token.isOperator = false := by
  cases token with
  | finish => simp [operator?, isOperator]
  | piece content =>
      rw [operator?_piece, isOperator_piece]
      exact Content.operator?_eq_none_iff

theorem isValue_iff
    {token : Token} :
    token.isValue = true ↔
      ∃ content, token = .piece content ∧ content.category.isValue = true := by
  cases token with
  | finish => simp [isValue]
  | piece content => simp

end Token

theorem Category.isOperator_eq_false_of_isValue
    {category : Category}
    (h : category.isValue = true) :
    category.isOperator = false := by
  simp only [isValue, Bool.and_eq_true, Bool.not_eq_true'] at h
  exact h.1

@[simp] theorem Released.nothing_add
    (released : Released) :
    .nothing + released = released := by
  show Released.mk (0 + released.nodes) (0 + released.buffers) = released
  rw [UInt64.zero_add, UInt64.zero_add]

namespace Tree

variable {δ : Type}

/-- The tree of a whole rule whose slots are empty. -/
def ofParts
    (name : String)
    (op : Operator)
    (value : Content) :
    Tree δ :=
  .branch (.operator op) (.leaf (.attr name) none) (.leaf value none) none

/-- A content that is no operator stands alone. -/
theorem create_leaf
    {content : Content}
    (h : content.category.isOperator = false) :
    create content (none : Option (Tree δ)) none = .ok (.leaf content none) := by
  simp [create, assemble, h]

/-- An attribute and a value make a rule under every operator. -/
theorem create_rule
    (op : Operator)
    {left right : Tree δ}
    (hleft : left.category = .attr)
    (hright : right.category.isValue = true) :
    create (.operator op) (some left) (some right) =
      .ok (.branch (.operator op) left right none) := by
  have hassemble :
      assemble (.operator op) (some left) (some right) =
        .ok (.branch (.operator op) left right none) := by
    simp only [assemble, hleft, hright]
    rfl
  simp only [create, hassemble]

end Tree

end LayoutRules
