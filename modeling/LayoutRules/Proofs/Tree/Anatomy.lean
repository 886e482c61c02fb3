import LayoutRules.Proofs.Tree.Built

/-!
# The anatomy of trees that can be built

Nothing in the type of trees bounds their depth or says what stands below
what. The steps by which trees are made do: a tree is a single node without
children, or an operator over an attribute and a value that have no children
themselves. What a tree answers about its parts, what it gives back and how it
is written follow from that.
-/

namespace LayoutRules

namespace Category

/-- Names and coordinates are kept as text. -/
def carriesText : Category → Bool
  | .attr => true
  | .coordinate _ => true
  | .amount _ => false
  | .nil => false
  | .operator _ => false

end Category

namespace Content

/-- The contents with a buffer are those that are kept as text. -/
theorem hasBuffer_eq_carriesText
    (content : Content) :
    content.hasBuffer = content.category.carriesText := by
  cases content <;> rfl

end Content

namespace Tree

variable {δ : Type}

/-- A node without children that is no operator. -/
structure IsSingle (tree : Tree δ) : Prop where
  category : tree.category.isOperator = false
  noLeft : tree.left? = none
  noRight : tree.right? = none

/-- An operator over a name and a value that are single nodes. -/
structure IsRuleOf
    (tree : Tree δ)
    (op : Operator)
    (name : String)
    (first second : Tree δ) :
    Prop where
  content : tree.content = .operator op
  left : tree.left? = some first
  right : tree.right? = some second
  name : first.content = .attr name
  value : second.category.isValue = true
  leftSingle : first.IsSingle
  rightSingle : second.IsSingle

theorem isSingle_leaf
    {content : Content}
    (slot : Option δ)
    (h : content.category.isOperator = false) :
    (leaf content slot).IsSingle :=
  ⟨h, rfl, rfl⟩

/-- An operator over the leaves of a name and a value is a rule, whatever the slots hold. -/
theorem isRuleOf_branch
    (op : Operator)
    (name : String)
    {value : Content}
    (leftSlot rightSlot slot : Option δ)
    (h : value.category.isValue = true) :
    (branch (.operator op) (.leaf (.attr name) leftSlot) (.leaf value rightSlot) slot).IsRuleOf
      op name (.leaf (.attr name) leftSlot) (.leaf value rightSlot) where
  content := rfl
  left := rfl
  right := rfl
  name := rfl
  value := h
  leftSingle := isSingle_leaf leftSlot rfl
  rightSingle := isSingle_leaf rightSlot (Category.isOperator_eq_false_of_isValue h)

/-- What has the shape is a single node or a rule of single nodes. -/
theorem Shaped.isSingle_or_isRuleOf
    {tree : Tree δ}
    (h : Shaped tree) :
    tree.IsSingle ∨ ∃ op name first second, tree.IsRuleOf op name first second := by
  cases h with
  | single h => exact Or.inl (isSingle_leaf _ h)
  | rule h => exact Or.inr ⟨_, _, _, _, isRuleOf_branch _ _ _ _ _ h⟩

section Single

variable {tree : Tree δ}

theorem IsSingle.operator?_eq_none
    (h : tree.IsSingle) :
    tree.content.operator? = none :=
  Content.operator?_eq_none_iff.mpr h.category

theorem IsSingle.isLeaf
    (h : tree.IsSingle) :
    tree.isLeaf = true := by
  cases tree with
  | leaf content slot => rfl
  | branch content first second slot => cases h.noLeft

theorem IsSingle.parts?_eq_none
    (h : tree.IsSingle) :
    tree.parts? = none := by
  rw [parts?, h.operator?_eq_none]

theorem IsSingle.released
    (h : tree.IsSingle) :
    tree.released = .ofContent tree.content := by
  cases tree with
  | leaf content slot => rfl
  | branch content first second slot => cases h.noLeft

end Single

section Rule

variable {tree first second : Tree δ} {op : Operator} {name : String}

theorem IsRuleOf.eq_branch
    (h : tree.IsRuleOf op name first second) :
    tree = .branch (.operator op) first second tree.slot := by
  cases tree with
  | leaf content slot => cases h.left
  | branch content left right slot =>
      cases h.content
      cases h.left
      cases h.right
      rfl

theorem IsRuleOf.isLeaf
    (h : tree.IsRuleOf op name first second) :
    tree.isLeaf = false := by
  rw [h.eq_branch]
  rfl

theorem IsRuleOf.parts?_eq
    (h : tree.IsRuleOf op name first second) :
    tree.parts? = some (name, op, second) := by
  rw [parts?, h.content, h.left, h.right]
  simp only [Content.operator?, h.name]
  rfl

/-- Three nodes are given back, the name and, if the value is a coordinate, its text. -/
theorem IsRuleOf.released
    (h : tree.IsRuleOf op name first second) :
    tree.released =
      ⟨3, 1 + if second.content.coordinate?.isSome then 1 else 0⟩ := by
  have hvalue := h.value
  rw [Tree.category] at hvalue
  rw [h.eq_branch, Tree.released, h.leftSingle.released, h.rightSingle.released, h.name]
  generalize second.content = content at hvalue ⊢
  cases content with
  | attr text => cases hvalue
  | operator op => cases hvalue
  | amount basis amount => rfl
  | coordinate basis text => rfl
  | nil => rfl

theorem IsRuleOf.text_eq
    (h : tree.IsRuleOf op name first second) :
    tree.text = first.text ++ " " ++ op.symbol ++ " " ++ second.text := by
  rw [h.eq_branch]
  simp [text, characters, word, Operator.symbol, String.append_assoc]

end Rule

/-- What is read from a text is what a reader of the text reads. -/
theorem built_of_ofText
    {settings : Settings} {rule : String} {tree : Tree δ}
    (h : (ofText settings rule).1 = .ok tree) :
    Built tree := by
  have hsource : (ofSource settings.trace (Scanner.ofString rule)).1 = .ok tree := by
    rw [ofText] at h
    cases hlength : settings.lengthError? rule with
    | some error =>
        rw [hlength] at h
        cases h
    | none =>
        rw [hlength] at h
        exact h
  rw [ofSource] at hsource
  cases hstart : Reader.start (Scanner.ofString rule) settings.trace with
  | error error =>
      rw [hstart] at hsource
      cases hsource
  | ok reader =>
      rw [hstart] at hsource
      exact .read hsource

/--
Whatever the steps are by which a tree is made, reading texts included, it is
a single node that is no operator, or an operator over a name and a value that
are single nodes. It is a leaf exactly if it has no operator and has parts
exactly if it has one, which are then the name, the operator and the right
child. It gives back one node, or three nodes and one or two texts, and an
operator is written between its children, parted by single spaces.
-/
theorem built_tree_is_single_or_rule
    (tree : Tree δ) :
    (∀ settings rule, (ofText settings rule).1 = .ok tree → Built tree) ∧
    (Built tree →
      (tree.IsSingle ∨ ∃ op name first second, tree.IsRuleOf op name first second) ∧
      (tree.isLeaf = true ↔ tree.content.operator? = none) ∧
      (tree.parts?.isSome = true ↔ tree.content.operator?.isSome = true) ∧
      (tree.content.operator? = none → tree.released.nodes = 1) ∧
      (∀ op, tree.content.operator? = some op →
        ∃ name first second,
          tree.IsRuleOf op name first second ∧
          tree.parts? = some (name, op, second) ∧
          tree.released.nodes = 3 ∧
          (tree.released.buffers = 1 ∨ tree.released.buffers = 2) ∧
          tree.text = first.text ++ " " ++ op.symbol ++ " " ++ second.text)) := by
  refine ⟨fun settings rule => built_of_ofText, ?_⟩
  intro hbuilt
  have hshape := hbuilt.shaped.isSingle_or_isRuleOf
  refine ⟨hshape, ?_⟩
  rcases hshape with hsingle | ⟨op, name, first, second, hrule⟩
  · rw [hsingle.operator?_eq_none, hsingle.isLeaf, hsingle.parts?_eq_none, hsingle.released]
    simp [Released.ofContent]
  · rw [hrule.content, hrule.parts?_eq, hrule.isLeaf]
    refine ⟨by simp [Content.operator?], by simp [Content.operator?], by simp [Content.operator?],
      ?_⟩
    rintro op' ⟨⟩
    refine ⟨name, first, second, hrule, rfl, ?_, ?_, hrule.text_eq⟩
    · rw [hrule.released]
    · rw [hrule.released]
      cases second.content.coordinate? with
      | none => exact Or.inl rfl
      | some text => exact Or.inr rfl

/-- A tree that is read from a text and then given data is still the rule that was read. -/
theorem built_tree_is_single_or_rule_with_data :
    let read : Tree Unit := ofParts "x" .divide (.coordinate .own "1%,2")
    let tree := read.withSlot (some ())
    (ofText Settings.default "x /= 1%,2").1 = .ok read ∧
      Built tree ∧
      tree.content.operator? = some .divide ∧
      ∃ name first second,
        tree.IsRuleOf .divide name first second ∧
        tree.parts? = some (name, .divide, second) ∧
        tree.released.nodes = 3 ∧
        (tree.released.buffers = 1 ∨ tree.released.buffers = 2) ∧
        tree.text = first.text ++ " " ++ Operator.divide.symbol ++ " " ++ second.text := by
  intro read tree
  have hread : (ofText Settings.default "x /= 1%,2").1 = .ok read := by rfl
  have hbuilt : Built tree :=
    ((built_tree_is_single_or_rule read).1 _ _ hread).slotted (some ())
  exact ⟨hread, hbuilt, rfl, ((built_tree_is_single_or_rule tree).2 hbuilt).2.2.2.2 _ rfl⟩

end Tree
end LayoutRules
