import LayoutRules.Proofs.Rule.Course

/-!
# Trees that can be built

Trees are made as nodes over trees, read from sources, copied, taken out of
other trees, and given other data for their slots. Whatever the order of these
steps, the tree is a single content that is no operator, or a whole rule.
-/

namespace LayoutRules

namespace Content

theorem eq_attr_of_category
    {content : Content}
    (h : content.category = .attr) :
    ∃ name, content = .attr name := by
  cases content with
  | attr name => exact ⟨name, rfl⟩
  | _ => cases h

theorem eq_operator_of_category
    {content : Content}
    (h : content.category.isOperator = true) :
    ∃ op, content = .operator op := by
  cases content with
  | operator op => exact ⟨op, rfl⟩
  | _ => cases h

end Content

namespace Reader

variable {σ δ : Type} [Source σ]

/-- A tree that is read is the tree of three parts. -/
theorem ofParts_of_read
    {reader : Reader σ} {tree : Tree δ}
    (h : (reader.read : Step σ (Tree δ)).outcome = .ok tree) :
    ∃ name op value,
      value.category.isValue = true ∧ tree = Tree.ofParts name op value := by
  rw [read, Reading.shown_outcome] at h
  have hcourse := Reading.course_rule (δ := δ) reader
  generalize Reading.rule reader = step at h hcourse
  cases hcourse with
  | rule hattr hfirst hoperator hsecond hvalue hisValue hthird hfinish =>
      exact ⟨_, _, _, hisValue, (Except.ok.inj h).symm⟩
  | _ => cases h

end Reader

namespace Tree

variable {δ : Type}

/-- The trees that any sequence of steps leads to. -/
inductive Built : Tree δ → Prop
  | created
      {content : Content} {left right : Option (Tree δ)} {tree : Tree δ}
      (hleft : ∀ child ∈ left, Built child)
      (hright : ∀ child ∈ right, Built child)
      (h : create content left right = .ok tree) :
      Built tree
  | read
      {σ : Type} [Source σ] {reader : Reader σ} {tree : Tree δ}
      (h : (reader.read : Step σ (Tree δ)).outcome = .ok tree) :
      Built tree
  | copied
      {tree : Tree δ}
      (h : Built tree) :
      Built tree.copy
  | slotted
      {tree : Tree δ}
      (h : Built tree)
      (slot : Option δ) :
      Built (tree.withSlot slot)
  | leftChild
      {tree child : Tree δ}
      (h : Built tree)
      (hleft : tree.left? = some child) :
      Built child
  | rightChild
      {tree child : Tree δ}
      (h : Built tree)
      (hright : tree.right? = some child) :
      Built child

/-- A single content that is no operator, or an operator over an attribute and a value. -/
inductive Shaped : Tree δ → Prop
  | single
      {content : Content} {slot : Option δ}
      (h : content.category.isOperator = false) :
      Shaped (.leaf content slot)
  | rule
      {name : String} {op : Operator} {value : Content} {leftSlot rightSlot slot : Option δ}
      (h : value.category.isValue = true) :
      Shaped
        (.branch (.operator op) (.leaf (.attr name) leftSlot) (.leaf value rightSlot) slot)

/-- A node is a content alone, or an operator over an attribute and a value. -/
theorem cases_of_create
    {content : Content} {left right : Option (Tree δ)} {tree : Tree δ}
    (h : create content left right = .ok tree) :
    (content.category.isOperator = false ∧ left = none ∧ right = none ∧
      tree = .leaf content none) ∨
    (∃ first second,
      content.category.isOperator = true ∧ left = some first ∧ right = some second ∧
      first.category = .attr ∧ second.category.isValue = true ∧
      tree = .branch content first second none) := by
  have hassemble : assemble content left right = .ok tree := by
    unfold create at h
    split at h
    case h_1 hassemble => rwa [Except.ok.inj h] at hassemble
    case h_2 => cases h
  unfold assemble at hassemble
  by_cases hoperator : content.category.isOperator = true
  · refine Or.inr ?_
    rw [if_pos hoperator] at hassemble
    match left, right, hassemble with
    | some first, some second, hassemble =>
        by_cases hattr : first.category = .attr
        · by_cases hvalue : second.category.isValue = true
          · simp only [hattr, hvalue, ne_eq, not_true_eq_false, if_false, Bool.not_true,
              Bool.false_eq_true] at hassemble
            exact ⟨first, second, hoperator, rfl, rfl, hattr, hvalue,
              (Except.ok.inj hassemble).symm⟩
          · simp [hattr, hvalue] at hassemble
        · simp [hattr] at hassemble
  · refine Or.inl ?_
    rw [if_neg hoperator] at hassemble
    match left, right, hassemble with
    | none, none, hassemble =>
        exact ⟨by simpa using hoperator, rfl, rfl, (Except.ok.inj hassemble).symm⟩

theorem Shaped.ofParts
    (name : String)
    (op : Operator)
    {value : Content}
    (h : value.category.isValue = true) :
    Shaped (ofParts name op value : Tree δ) :=
  .rule h

theorem Shaped.copy
    {tree : Tree δ}
    (h : Shaped tree) :
    Shaped tree.copy := by
  cases h with
  | single h => exact .single h
  | rule h => exact .rule h

theorem Shaped.withSlot
    {tree : Tree δ}
    (h : Shaped tree)
    (slot : Option δ) :
    Shaped (tree.withSlot slot) := by
  cases h with
  | single h => exact .single h
  | rule h => exact .rule h

/-- The children of a rule stand alone. -/
theorem Shaped.child
    {tree child : Tree δ}
    (h : Shaped tree)
    (hchild : tree.left? = some child ∨ tree.right? = some child) :
    Shaped child := by
  cases h with
  | single h => rcases hchild with hchild | hchild <;> cases hchild
  | rule h =>
      rcases hchild with hchild | hchild
      · cases hchild
        exact .single rfl
      · cases hchild
        exact .single (Category.isOperator_eq_false_of_isValue h)

/-- What is no operator has no children. -/
theorem Shaped.eq_leaf
    {tree : Tree δ}
    (h : Shaped tree)
    (hoperator : tree.category.isOperator = false) :
    ∃ content slot, tree = .leaf content slot := by
  cases h with
  | single h => exact ⟨_, _, rfl⟩
  | rule h => cases hoperator

/-- An operator has an attribute and a value below it. -/
theorem Shaped.eq_branch
    {tree : Tree δ}
    (h : Shaped tree)
    (hoperator : tree.category.isOperator = true) :
    ∃ name op value leftSlot rightSlot slot,
      value.category.isValue = true ∧
      tree =
        .branch (.operator op) (.leaf (.attr name) leftSlot) (.leaf value rightSlot) slot := by
  cases h with
  | @single content slot h =>
      have hcontent : content.category.isOperator = true := hoperator
      rw [h] at hcontent
      cases hcontent
  | rule h => exact ⟨_, _, _, _, _, _, h, rfl⟩

/-- Every step keeps the shape. -/
theorem Built.shaped
    {tree : Tree δ}
    (h : Built tree) :
    Shaped tree := by
  induction h with
  | created hleft hright hcreate ihLeft ihRight =>
      rcases cases_of_create hcreate with
        ⟨hoperator, rfl, rfl, rfl⟩ |
        ⟨first, second, hoperator, rfl, rfl, hattr, hvalue, rfl⟩
      · exact .single hoperator
      · have hfirst := ihLeft first rfl
        have hsecond := ihRight second rfl
        obtain ⟨left, leftSlot, rfl⟩ := hfirst.eq_leaf (by rw [hattr]; rfl)
        obtain ⟨right, rightSlot, rfl⟩ :=
          hsecond.eq_leaf (Category.isOperator_eq_false_of_isValue hvalue)
        obtain ⟨name, rfl⟩ := Content.eq_attr_of_category hattr
        obtain ⟨op, rfl⟩ := Content.eq_operator_of_category hoperator
        exact .rule hvalue
  | read hread =>
      obtain ⟨name, op, value, hvalue, rfl⟩ := Reader.ofParts_of_read hread
      exact .ofParts name op hvalue
  | copied h ih => exact ih.copy
  | slotted h slot ih => exact ih.withSlot slot
  | leftChild h hleft ih => exact ih.child (Or.inl hleft)
  | rightChild h hright ih => exact ih.child (Or.inr hright)

/-- Every tree of the shape can be built: its slots are filled node by node. -/
theorem Shaped.built
    {tree : Tree δ}
    (h : Shaped tree) :
    Built tree := by
  have hnone : ∀ child ∈ (none : Option (Tree δ)), Built child := by
    intro child hchild
    cases hchild
  have hsome {tree : Tree δ} (h : Built tree) : ∀ child ∈ some tree, Built child := by
    rintro child ⟨⟩
    exact h
  have hleaf {content : Content} (slot : Option δ)
      (h : content.category.isOperator = false) : Built (.leaf content slot) :=
    (Built.created hnone hnone (create_leaf h)).slotted slot
  cases h with
  | single h => exact hleaf _ h
  | @rule name op value leftSlot rightSlot slot h =>
      have hleft : Built (.leaf (.attr name) leftSlot) := hleaf leftSlot rfl
      have hright : Built (.leaf value rightSlot) :=
        hleaf rightSlot (Category.isOperator_eq_false_of_isValue h)
      have hcreate :
          create (.operator op) (some (.leaf (.attr name) leftSlot))
              (some (.leaf value rightSlot)) =
            .ok (.branch (.operator op) (.leaf (.attr name) leftSlot)
              (.leaf value rightSlot) none) :=
        create_rule op rfl h
      exact (Built.created (hsome hleft) (hsome hright) hcreate).slotted slot

theorem built_iff_shaped
    {tree : Tree δ} :
    Built tree ↔ Shaped tree :=
  ⟨Built.shaped, Shaped.built⟩

end Tree
end LayoutRules
