import LayoutRules.Proofs.Tree.Anatomy

/-!
# Which nodes are created

A content and its operands make a node exactly if they fit. What does not fit
is refused for one reason: the number of operands if that is wrong, else the
left operand if it is no attribute, else the right one. Nothing is lost on
either way: a node has the nodes and the texts of its operands and its own, and
a refusal gives back those of the operands.

The counts that are given back are words. The trees that can be built are far
too small for them to wrap around.
-/

namespace LayoutRules

namespace Released

/-- The words of what was given back stand for these numbers of nodes and of texts. -/
structure Counts
    (released : Released)
    (nodes buffers : Nat) :
    Prop where
  nodes : released.nodes.toNat = nodes
  buffers : released.buffers.toNat = buffers

theorem toNat_add_eq
    {first second : UInt64} {m n : Nat}
    (hfirst : first.toNat = m)
    (hsecond : second.toNat = n)
    (h : m + n < UInt64.size) :
    (first + second).toNat = m + n := by
  calc
    (first + second).toNat
        = (first.toNat + second.toNat) % UInt64.size := UInt64.toNat_add ..
    _ = (m + n) % UInt64.size := by rw [hfirst, hsecond]
    _ = m + n := Nat.mod_eq_of_lt h

/-- What was given back in two steps is counted together if it is not too much for a word. -/
theorem Counts.add
    {first second : Released} {nodes nodes' buffers buffers' : Nat}
    (hfirst : first.Counts nodes buffers)
    (hsecond : second.Counts nodes' buffers')
    (hnodes : nodes + nodes' < UInt64.size)
    (hbuffers : buffers + buffers' < UInt64.size) :
    (first + second).Counts (nodes + nodes') (buffers + buffers') where
  nodes := toNat_add_eq hfirst.nodes hsecond.nodes hnodes
  buffers := toNat_add_eq hfirst.buffers hsecond.buffers hbuffers

theorem counts_ofContent
    (content : Content) :
    (ofContent content).Counts 1 content.category.carriesText.toNat := by
  rw [ofContent, content.hasBuffer_eq_carriesText]
  cases content.category.carriesText with
  | false => exact ⟨rfl, rfl⟩
  | true => exact ⟨rfl, rfl⟩

end Released

namespace Tree

variable {δ : Type}

/-- The number of nodes of a tree. -/
def nodeCount : Tree δ → Nat
  | .leaf _ _ => 1
  | .branch _ left right _ => left.nodeCount + right.nodeCount + 1

/-- The number of contents of a tree that are kept as text. -/
def bufferCount : Tree δ → Nat
  | .leaf content _ => content.category.carriesText.toNat
  | .branch content left right _ =>
      left.bufferCount + right.bufferCount + content.category.carriesText.toNat

/-- The number of nodes of a tree that may be absent. -/
def nodesOf (tree : Option (Tree δ)) : Nat :=
  tree.elim 0 nodeCount

/-- The number of texts of a tree that may be absent. -/
def buffersOf (tree : Option (Tree δ)) : Nat :=
  tree.elim 0 bufferCount

/-- The number of operands that a content needs. -/
def arity (content : Content) : Nat :=
  if content.category.isOperator then 2 else 0

/-- The operands that a content needs: an attribute and a value for an operator, else none. -/
inductive Fits : Content → Option (Tree δ) → Option (Tree δ) → Prop
  | single
      {content : Content}
      (h : content.category.isOperator = false) :
      Fits content none none
  | rule
      {content : Content} {first second : Tree δ}
      (h : content.category.isOperator = true)
      (hfirst : first.category = .attr)
      (hsecond : second.category.isValue = true) :
      Fits content (some first) (some second)

/-- The reason for which a content and its operands make no node. -/
inductive Refused
    (content : Content) :
    Option (Tree δ) → Option (Tree δ) → ShapeError → Prop
  | arity
      {left right : Option (Tree δ)}
      (h : operandCount left right ≠ arity content) :
      Refused content left right
        (.arity content.category (arity content) (operandCount left right))
  | leftNotAttribute
      {first second : Tree δ}
      (h : content.category.isOperator = true)
      (hfirst : first.category ≠ .attr) :
      Refused content (some first) (some second)
        (.leftNotAttribute content.category first.category)
  | rightNotValue
      {first second : Tree δ}
      (h : content.category.isOperator = true)
      (hfirst : first.category = .attr)
      (hsecond : second.category.isValue = false) :
      Refused content (some first) (some second)
        (.rightNotValue content.category second.category)

/-- A node of a content that holds its operands as they are, and no data of its own. -/
structure IsNodeOf
    (tree : Tree δ)
    (content : Content)
    (left right : Option (Tree δ)) :
    Prop where
  content : tree.content = content
  left : tree.left? = left
  right : tree.right? = right
  slot : tree.slot = none

section Shapes

variable {content : Content} {left right : Option (Tree δ)} {error : ShapeError}

/-- The operands fit or there is a reason to refuse them. -/
theorem fits_or_refused
    (content : Content)
    (left right : Option (Tree δ)) :
    Fits content left right ∨ ∃ error, Refused content left right error := by
  by_cases hcount : operandCount left right = arity content
  · cases hoperator : content.category.isOperator with
    | false =>
        rw [arity, hoperator] at hcount
        match left, right, hcount with
        | none, none, _ => exact Or.inl (.single hoperator)
    | true =>
        rw [arity, hoperator] at hcount
        match left, right, hcount with
        | some first, some second, _ =>
            by_cases hfirst : first.category = .attr
            · cases hsecond : second.category.isValue with
              | true => exact Or.inl (.rule hoperator hfirst hsecond)
              | false => exact Or.inr ⟨_, .rightNotValue hoperator hfirst hsecond⟩
            · exact Or.inr ⟨_, .leftNotAttribute hoperator hfirst⟩
  · exact Or.inr ⟨_, .arity hcount⟩

/-- What fits is made a node, which gives back what its operands do and its own. -/
theorem create_of_fits
    (h : Fits content left right) :
    ∃ tree : Tree δ,
      create content left right = .ok tree ∧
      tree.IsNodeOf content left right ∧
      tree.released = releasedOf left + releasedOf right + .ofContent content := by
  cases h with
  | single h =>
      have hreleased :
          (leaf content (none : Option δ)).released =
            .nothing + .nothing + .ofContent content := by
        rw [Released.nothing_add, Released.nothing_add]
        rfl
      exact ⟨_, create_leaf h, ⟨rfl, rfl, rfl, rfl⟩, hreleased⟩
  | rule h hfirst hsecond =>
      obtain ⟨op, rfl⟩ := Content.eq_operator_of_category h
      exact ⟨_, create_rule op hfirst hsecond, ⟨rfl, rfl, rfl, rfl⟩, rfl⟩

/-- A wrong number of operands is refused before they are looked at. -/
theorem assemble_of_count
    (h : operandCount left right ≠ arity content) :
    assemble content left right =
      .error (.arity content.category (arity content) (operandCount left right)) := by
  cases hoperator : content.category.isOperator with
  | false =>
      rw [arity, hoperator] at h ⊢
      cases left with
      | some first => cases right <;> simp [assemble, hoperator]
      | none =>
          cases right with
          | none => exact absurd rfl h
          | some second => simp [assemble, hoperator]
  | true =>
      rw [arity, hoperator] at h ⊢
      cases left with
      | none => cases right <;> simp [assemble, hoperator]
      | some first =>
          cases right with
          | none => simp [assemble, hoperator]
          | some second => exact absurd rfl h

/-- What does not fit is refused for its reason, and its operands are given back. -/
theorem create_of_refused
    (h : Refused content left right error) :
    create content left right = .error ⟨error, releasedOf left + releasedOf right⟩ := by
  have hassemble : assemble content left right = .error error := by
    cases h with
    | arity h => exact assemble_of_count h
    | leftNotAttribute h hfirst => simp [assemble, h, hfirst]
    | rightNotValue h hfirst hsecond => simp [assemble, h, hfirst, hsecond]
  rw [create, hassemble]

theorem Refused.category_eq
    (h : Refused content left right error) :
    error.category = content.category := by
  cases h <;> rfl

/-- A node is created exactly if the operands fit. -/
theorem exists_create_iff :
    (∃ tree : Tree δ, create content left right = .ok tree) ↔ Fits content left right := by
  constructor
  · rintro ⟨tree, htree⟩
    rcases fits_or_refused content left right with hfits | ⟨error, hrefused⟩
    · exact hfits
    · rw [create_of_refused hrefused] at htree
      cases htree
  · intro hfits
    obtain ⟨tree, htree, -⟩ := create_of_fits hfits
    exact ⟨tree, htree⟩

/-- A refusal has a reason for it and gives back the operands. -/
theorem refused_of_create
    {refusal : Refusal}
    (h : create content left right = .error refusal) :
    Refused content left right refusal.error ∧
      refusal.released = releasedOf left + releasedOf right := by
  rcases fits_or_refused content left right with hfits | ⟨error, hrefused⟩
  · obtain ⟨tree, htree, -⟩ := create_of_fits hfits
    rw [htree] at h
    cases h
  · rw [create_of_refused hrefused] at h
    cases h
    exact ⟨hrefused, rfl⟩

/-- There is one reason at most, so a content and its operands are refused for theirs. -/
theorem exists_refusal_iff :
    (∃ released, create content left right = .error ⟨error, released⟩) ↔
      Refused content left right error := by
  constructor
  · rintro ⟨released, hcreate⟩
    exact (refused_of_create hcreate).1
  · intro hrefused
    exact ⟨_, create_of_refused hrefused⟩

end Shapes

section Counts

/-- A word has room for two rules and one more node. -/
theorem seven_lt_size :
    7 < UInt64.size := by
  decide

/-- Every text is that of a node. -/
theorem bufferCount_le_nodeCount
    (tree : Tree δ) :
    tree.bufferCount ≤ tree.nodeCount := by
  induction tree with
  | leaf content slot => exact content.category.carriesText.toNat_le
  | branch content left right slot ihLeft ihRight =>
      have hcontent := content.category.carriesText.toNat_le
      simp only [bufferCount, nodeCount]
      omega

/-- A tree gives back all of its nodes and texts, unless they are too many for a word. -/
theorem counts_released
    (tree : Tree δ)
    (h : tree.nodeCount < UInt64.size) :
    tree.released.Counts tree.nodeCount tree.bufferCount := by
  induction tree with
  | leaf content slot => exact Released.counts_ofContent content
  | branch content left right slot ihLeft ihRight =>
      have hnodes : left.nodeCount + right.nodeCount + 1 < UInt64.size := h
      -- There are no more texts than nodes, so the bound is one of the texts as well.
      have hleft := left.bufferCount_le_nodeCount
      have hright := right.bufferCount_le_nodeCount
      have hcontent := content.category.carriesText.toNat_le
      have hchildren := (ihLeft (by omega)).add (ihRight (by omega)) (by omega) (by omega)
      exact hchildren.add (Released.counts_ofContent content) hnodes (by omega)

/-- A tree that can be built has at most the three nodes of a rule. -/
theorem Built.nodeCount_le
    {tree : Tree δ}
    (h : Built tree) :
    tree.nodeCount ≤ 3 := by
  cases h.shaped with
  | single h => exact Nat.le_add_left 1 2
  | rule h => exact Nat.le_refl 3

/-- An operand gives back all of its nodes and texts, and there are few of them. -/
theorem counts_releasedOf
    {tree : Option (Tree δ)}
    (h : ∀ child ∈ tree, Built child) :
    (releasedOf tree).Counts (nodesOf tree) (buffersOf tree) ∧
      nodesOf tree ≤ 3 ∧
      buffersOf tree ≤ 3 := by
  cases tree with
  | none => exact ⟨⟨rfl, rfl⟩, Nat.zero_le 3, Nat.zero_le 3⟩
  | some tree =>
      have hroom := seven_lt_size
      have hnodes : tree.nodeCount ≤ 3 := (h tree rfl).nodeCount_le
      have hbuffers : tree.bufferCount ≤ 3 :=
        Nat.le_trans tree.bufferCount_le_nodeCount hnodes
      exact ⟨tree.counts_released (by omega), hnodes, hbuffers⟩

variable {left right : Option (Tree δ)}

/-- Both operands together give back the nodes and texts of both. -/
theorem counts_operands
    (hleft : ∀ child ∈ left, Built child)
    (hright : ∀ child ∈ right, Built child) :
    (releasedOf left + releasedOf right).Counts
      (nodesOf left + nodesOf right)
      (buffersOf left + buffersOf right) := by
  obtain ⟨hfirst, hfirstNodes, hfirstBuffers⟩ := counts_releasedOf hleft
  obtain ⟨hsecond, hsecondNodes, hsecondBuffers⟩ := counts_releasedOf hright
  have hroom := seven_lt_size
  exact hfirst.add hsecond (by omega) (by omega)

/-- A node over both operands adds itself and, if its content keeps one, its text. -/
theorem counts_node
    (content : Content)
    (hleft : ∀ child ∈ left, Built child)
    (hright : ∀ child ∈ right, Built child) :
    (releasedOf left + releasedOf right + .ofContent content).Counts
      (nodesOf left + nodesOf right + 1)
      (buffersOf left + buffersOf right + content.category.carriesText.toNat) := by
  obtain ⟨-, hfirstNodes, hfirstBuffers⟩ := counts_releasedOf hleft
  obtain ⟨-, hsecondNodes, hsecondBuffers⟩ := counts_releasedOf hright
  have hcontent := content.category.carriesText.toNat_le
  have hroom := seven_lt_size
  exact (counts_operands hleft hright).add (Released.counts_ofContent content)
    (by omega) (by omega)

end Counts

end Tree

/-- A refused node is shown, and nothing else is. -/
theorem Reading.node_events
    {σ δ : Type} {content : Content} {left right : Option (Tree δ)} {refusal : Refusal}
    (reader : Reader σ)
    (h : Tree.create content left right = .error refusal) :
    (Reading.node content left right reader : Step σ (Tree δ)).events =
      [.nodeRejected refusal] := by
  rw [Reading.node, h]

namespace Tree

/--
Over operands that can be built, a node is created exactly if they fit its
content, and it is refused for a reason exactly if that is the first that
applies: the number of operands, the left one, the right one. A node that is
created holds the very operands and no data; it gives back what they do and
itself, and its text if it keeps one. A refusal names the category of the
content, and the one event that shows it has the numbers of nodes and texts of
both operands.
-/
theorem create_decides_shape
    (content : Content)
    (left right : Option (Tree δ))
    (hleft : ∀ child ∈ left, Built child)
    (hright : ∀ child ∈ right, Built child) :
    ((∃ tree, create content left right = .ok tree) ↔ Fits content left right) ∧
    (∀ error,
      (∃ released, create content left right = .error ⟨error, released⟩) ↔
        Refused content left right error) ∧
    (∀ tree,
      create content left right = .ok tree →
        tree.IsNodeOf content left right ∧
        tree.released = releasedOf left + releasedOf right + .ofContent content ∧
        tree.released.Counts
          (nodesOf left + nodesOf right + 1)
          (buffersOf left + buffersOf right + content.category.carriesText.toNat)) ∧
    (∀ refusal,
      create content left right = .error refusal →
        refusal.error.category = content.category ∧
        refusal.released.Counts
          (nodesOf left + nodesOf right)
          (buffersOf left + buffersOf right) ∧
        ∀ (σ : Type) (reader : Reader σ),
          (Reading.node content left right reader : Step σ (Tree δ)).events =
            [.nodeRejected refusal]) := by
  refine ⟨exists_create_iff, fun error => exists_refusal_iff, ?_, ?_⟩
  · intro tree htree
    obtain ⟨made, hmade, hnode, hreleased⟩ :=
      create_of_fits (exists_create_iff.mp ⟨tree, htree⟩)
    rw [hmade] at htree
    cases htree
    refine ⟨hnode, hreleased, ?_⟩
    rw [hreleased]
    exact counts_node content hleft hright
  · intro refusal hrefusal
    obtain ⟨hrefused, hreleased⟩ := refused_of_create hrefusal
    refine ⟨hrefused.category_eq, ?_, fun σ reader => Reading.node_events reader hrefusal⟩
    rw [hreleased]
    exact counts_operands hleft hright

/-- A whole rule with data is no left operand: its nodes and the other's are given back. -/
theorem create_decides_shape_rule_on_left :
    let rule : Tree Unit := (ofParts "x" .divide (.coordinate .own "1%,2")).withSlot (some ())
    let name : Tree Unit := .leaf (.attr "y") none
    let reader : Reader Queue := ⟨.ofList [], .finish, 0, false⟩
    Built rule ∧
    Built name ∧
    ∃ refusal,
      create (.operator .add) (some rule) (some name) = .error refusal ∧
      refusal.error = .leftNotAttribute (.operator .add) (.operator .divide) ∧
      refusal.released.Counts 4 3 ∧
      (Reading.node (.operator .add) (some rule) (some name) reader :
        Step Queue (Tree Unit)).events = [.nodeRejected refusal] := by
  intro rule name reader
  have hrule : Built rule := (Shaped.rule rfl).built
  have hname : Built name := (Shaped.single rfl).built
  have hleft : ∀ child ∈ some rule, Built child := by
    rintro child ⟨⟩
    exact hrule
  have hright : ∀ child ∈ some name, Built child := by
    rintro child ⟨⟩
    exact hname
  obtain ⟨-, hreason, -, hrefusal⟩ :=
    create_decides_shape (.operator .add) (some rule) (some name) hleft hright
  obtain ⟨released, hcreate⟩ :=
    (hreason (.leftNotAttribute (.operator .add) (.operator .divide))).mpr
      (.leftNotAttribute rfl (by decide))
  obtain ⟨-, hcounts, hevents⟩ := hrefusal _ hcreate
  exact ⟨hrule, hname, _, hcreate, rfl, hcounts, hevents Queue reader⟩

end Tree
end LayoutRules
