import LayoutRules.Proofs.Tree.Creation
import LayoutRules.Proofs.Tree.Restored

/-!
# Trees that differ in the data in their slots

Two trees are alike when nothing but the data in their slots tells them apart.
None of what a tree answers depends on that data: trees that are alike agree in
their contents, texts and documents, in what they give back, in what they are
equal to, and in the nodes that they are made operands of.
-/

namespace LayoutRules
namespace Tree

variable {δ : Type}

/-- The data in the slots of all nodes, a node behind its children. -/
def slots : Tree δ → List (Option δ)
  | .leaf _ slot => [slot]
  | .branch _ left right slot => left.slots ++ (right.slots ++ [slot])

/-- Two trees that may be absent are so together, and otherwise alike. -/
abbrev AlikeIfAny (first second : Option (Tree δ)) : Prop :=
  Option.Rel Alike first second

/-- The same name and operator, with values that are alike. -/
structure AlikeParts (first second : String × Operator × Tree δ) : Prop where
  name : first.1 = second.1
  operator : first.2.1 = second.2.1
  value : Alike first.2.2 second.2.2

/-- The same refusal, or nodes that are alike. -/
inductive AlikeOutcomes : Except Refusal (Tree δ) → Except Refusal (Tree δ) → Prop
  | refused
      {refusal : Refusal} :
      AlikeOutcomes (.error refusal) (.error refusal)
  | created
      {first second : Tree δ}
      (h : Alike first second) :
      AlikeOutcomes (.ok first) (.ok second)

theorem alike_refl
    (tree : Tree δ) :
    Alike tree tree :=
  alike_iff_copy_eq.mpr rfl

theorem Alike.symm
    {first second : Tree δ}
    (h : Alike first second) :
    Alike second first :=
  alike_iff_copy_eq.mpr (alike_iff_copy_eq.mp h).symm

theorem Alike.trans
    {first second third : Tree δ}
    (h : Alike first second)
    (h' : Alike second third) :
    Alike first third :=
  alike_iff_copy_eq.mpr ((alike_iff_copy_eq.mp h).trans (alike_iff_copy_eq.mp h'))

/-- Other data in the root's slot makes no difference. -/
theorem Alike.withSlot
    {first second : Tree δ}
    (h : Alike first second)
    (slot slot' : Option δ) :
    Alike (first.withSlot slot) (second.withSlot slot') := by
  cases h with
  | leaf => exact .leaf
  | branch hleft hright => exact .branch hleft hright

theorem withSlot_slot
    (tree : Tree δ) :
    tree.withSlot tree.slot = tree := by
  cases tree <;> rfl

theorem slot_withSlot
    (tree : Tree δ)
    (slot : Option δ) :
    (tree.withSlot slot).slot = slot := by
  cases tree <;> rfl

/-- Putting data into the root's slot or taking it out leaves a tree alike. -/
theorem alike_withSlot
    (tree : Tree δ)
    (slot : Option δ) :
    Alike (tree.withSlot slot) tree := by
  have h := (alike_refl tree).withSlot slot tree.slot
  rwa [withSlot_slot] at h

theorem parts?_leaf
    (content : Content)
    (slot : Option δ) :
    (leaf content slot).parts? = none := by
  simp [parts?, left?]

theorem parts?_branch
    (content : Content)
    (left right : Tree δ)
    (slot : Option δ) :
    (branch content left right slot).parts? =
      content.operator?.bind fun op =>
        left.content.name?.map fun name => (name, op, right) := by
  unfold parts?
  simp only [Tree.content, left?, right?]
  cases content.operator? <;> rfl

section Copies

theorem alike_copy
    (tree : Tree δ) :
    Alike tree tree.copy := by
  induction tree with
  | leaf content slot => exact .leaf
  | branch content left right slot ihLeft ihRight => exact .branch ihLeft ihRight

/-- All slots of a copy are empty, at every depth. -/
theorem eq_none_of_mem_slots_copy
    {tree : Tree δ} {slot : Option δ}
    (h : slot ∈ tree.copy.slots) :
    slot = none := by
  induction tree with
  | leaf content data => exact List.mem_singleton.mp h
  | branch content left right data ihLeft ihRight =>
      rcases List.mem_append.mp h with hleft | h
      · exact ihLeft hleft
      rcases List.mem_append.mp h with hright | hroot
      · exact ihRight hright
      · exact List.mem_singleton.mp hroot

end Copies

section Observers

variable {first second : Tree δ}

theorem Alike.content_eq
    (h : Alike first second) :
    first.content = second.content := by
  cases h <;> rfl

theorem Alike.category_eq
    (h : Alike first second) :
    first.category = second.category :=
  congrArg Content.category h.content_eq

theorem Alike.isLeaf_eq
    (h : Alike first second) :
    first.isLeaf = second.isLeaf := by
  cases h <;> rfl

theorem Alike.left
    (h : Alike first second) :
    AlikeIfAny first.left? second.left? := by
  cases h with
  | leaf => exact .none
  | branch hleft hright => exact .some hleft

theorem Alike.right
    (h : Alike first second) :
    AlikeIfAny first.right? second.right? := by
  cases h with
  | leaf => exact .none
  | branch hleft hright => exact .some hright

theorem Alike.parts
    (h : Alike first second) :
    Option.Rel AlikeParts first.parts? second.parts? := by
  cases h with
  | @leaf content slot slot' =>
      rw [parts?_leaf, parts?_leaf]
      exact .none
  | @branch content left left' right right' slot slot' hleft hright =>
      rw [parts?_branch, parts?_branch, hleft.content_eq]
      cases content.operator? with
      | none => exact .none
      | some op =>
          cases left'.content.name? with
          | none => exact .none
          | some name => exact .some ⟨rfl, rfl, hright⟩

theorem Alike.released_eq
    (h : Alike first second) :
    first.released = second.released := by
  induction h with
  | leaf => rfl
  | branch hleft hright ihLeft ihRight => simp only [released, ihLeft, ihRight]

theorem Alike.text_eq
    (h : Alike first second) :
    first.text = second.text := by
  refine congrArg String.ofList ?_
  induction h with
  | leaf => rfl
  | branch hleft hright ihLeft ihRight => simp only [characters, ihLeft, ihRight]

theorem Alike.json_eq
    (h : Alike first second) :
    first.json = second.json := by
  rw [json, json, h.document_eq]

theorem Alike.prettyJson_eq
    (h : Alike first second) :
    first.prettyJson = second.prettyJson := by
  rw [prettyJson, prettyJson, h.document_eq]

/-- What a tree is compared with does not see its data. -/
theorem Alike.same_left
    (h : Alike first second)
    (third : Tree δ) :
    first.same third = second.same third := by
  induction h generalizing third with
  | leaf => cases third <;> rfl
  | branch hleft hright ihLeft ihRight =>
      cases third with
      | leaf content slot => rfl
      | branch content left right slot => simp only [same, ihLeft, ihRight]

theorem Alike.same_right
    (h : Alike first second)
    (third : Tree δ) :
    third.same first = third.same second := by
  induction h generalizing third with
  | leaf => cases third <;> rfl
  | branch hleft hright ihLeft ihRight =>
      cases third with
      | leaf content slot => rfl
      | branch content left right slot => simp only [same, ihLeft, ihRight]

end Observers

section Operands

variable {content : Content} {left left' right right' : Option (Tree δ)}

theorem AlikeIfAny.refl
    (tree : Option (Tree δ)) :
    AlikeIfAny tree tree := by
  cases tree with
  | none => exact .none
  | some tree => exact .some (alike_refl tree)

theorem AlikeIfAny.symm
    (h : AlikeIfAny left right) :
    AlikeIfAny right left := by
  cases h with
  | none => exact .none
  | some h => exact .some h.symm

theorem AlikeIfAny.trans
    {third : Option (Tree δ)}
    (h : AlikeIfAny left right)
    (h' : AlikeIfAny right third) :
    AlikeIfAny left third := by
  cases h with
  | none => exact h'
  | some h =>
      cases h' with
      | some h' => exact .some (h.trans h')

theorem AlikeIfAny.releasedOf_eq
    (h : AlikeIfAny left right) :
    releasedOf left = releasedOf right := by
  cases h with
  | none => rfl
  | some h => exact h.released_eq

theorem AlikeIfAny.length_toList
    (h : AlikeIfAny left right) :
    left.toList.length = right.toList.length := by
  cases h <;> rfl

/-- A reason to refuse some operands is one to refuse those that are alike. -/
theorem Refused.of_alike
    {error : ShapeError}
    (h : Refused content left right error)
    (hleft : AlikeIfAny left left')
    (hright : AlikeIfAny right right') :
    Refused content left' right' error := by
  cases h with
  | arity hcount =>
      have hsame : operandCount left right = operandCount left' right' := by
        rw [operandCount, operandCount, hleft.length_toList, hright.length_toList]
      rw [hsame] at hcount ⊢
      exact .arity hcount
  | leftNotAttribute hoperator hfirst =>
      cases hleft with
      | some hleft =>
          cases hright with
          | some hright =>
              rw [hleft.category_eq] at hfirst ⊢
              exact .leftNotAttribute hoperator hfirst
  | rightNotValue hoperator hfirst hsecond =>
      cases hleft with
      | some hleft =>
          cases hright with
          | some hright =>
              rw [hleft.category_eq] at hfirst
              rw [hright.category_eq] at hsecond ⊢
              exact .rightNotValue hoperator hfirst hsecond

/-- Operands that are alike are refused alike, or make nodes that are alike. -/
theorem create_alike
    (content : Content)
    (hleft : AlikeIfAny left left')
    (hright : AlikeIfAny right right') :
    AlikeOutcomes (create content left right) (create content left' right') := by
  rcases fits_or_refused content left right with hfits | ⟨error, hrefused⟩
  · cases hfits with
    | single hcontent =>
        cases hleft
        cases hright
        rw [create_leaf hcontent]
        exact .created .leaf
    | rule hcontent hfirst hsecond =>
        cases hleft with
        | some hleft =>
            cases hright with
            | some hright =>
                obtain ⟨op, rfl⟩ := Content.eq_operator_of_category hcontent
                rw [create_rule op hfirst hsecond]
                rw [hleft.category_eq] at hfirst
                rw [hright.category_eq] at hsecond
                rw [create_rule op hfirst hsecond]
                exact .created (.branch hleft hright)
  · rw [create_of_refused hrefused, create_of_refused (hrefused.of_alike hleft hright),
      hleft.releasedOf_eq, hright.releasedOf_eq]
    exact .refused

end Operands

end Tree
end LayoutRules
