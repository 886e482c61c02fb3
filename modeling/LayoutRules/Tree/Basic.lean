import LayoutRules.Content

/-!
# Rule trees

A rule tree has a content at every node and either no children or two. Each
node has a slot for data of whoever holds the tree; nothing here reads it.
-/

namespace LayoutRules

/-- How many nodes and text buffers were given back. -/
structure Released where
  nodes : UInt64
  buffers : UInt64
deriving DecidableEq, Repr

namespace Released

/-- Nothing was given back. -/
def nothing : Released :=
  ⟨0, 0⟩

/-- What was given back in two steps. -/
def add (first second : Released) : Released :=
  ⟨first.nodes + second.nodes, first.buffers + second.buffers⟩

instance : Add Released where
  add := add

/-- What a single node gives back. -/
def ofContent (content : Content) : Released :=
  ⟨1, if content.hasBuffer then 1 else 0⟩

end Released

/-- A binary tree of contents whose nodes carry a slot for foreign data. -/
inductive Tree (δ : Type) where
  | leaf (content : Content) (slot : Option δ)
  | branch (content : Content) (left right : Tree δ) (slot : Option δ)
deriving DecidableEq, Repr

namespace Tree

variable {δ : Type}

/-- The content of the root. -/
def content : Tree δ → Content
  | .leaf content _ => content
  | .branch content _ _ _ => content

/-- The category of the root. -/
def category (tree : Tree δ) : Category :=
  tree.content.category

/-- The left child. -/
def left? : Tree δ → Option (Tree δ)
  | .leaf _ _ => none
  | .branch _ left _ _ => some left

/-- The right child. -/
def right? : Tree δ → Option (Tree δ)
  | .leaf _ _ => none
  | .branch _ _ right _ => some right

/-- Whether the root has no children. -/
def isLeaf : Tree δ → Bool
  | .leaf _ _ => true
  | .branch _ _ _ _ => false

/-- The data in the root's slot. -/
def slot : Tree δ → Option δ
  | .leaf _ slot => slot
  | .branch _ _ _ slot => slot

/-- The tree with other data in the root's slot, or with none. -/
def withSlot (slot : Option δ) : Tree δ → Tree δ
  | .leaf content _ => .leaf content slot
  | .branch content left right _ => .branch content left right slot

/-- A copy of the tree; every slot of a copy is empty. -/
def copy : Tree δ → Tree δ
  | .leaf content _ => .leaf content none
  | .branch content left right _ => .branch content left.copy right.copy none

/-- Trees agree in shape and contents, whatever their slots hold. -/
def same : Tree δ → Tree δ → Bool
  | .leaf first _, .leaf second _ => first.same second
  | .branch first left right _, .branch second left' right' _ =>
      first.same second && left.same left' && right.same right'
  | _, _ => false

/-- What the tree gives back when it is no longer needed. -/
def released : Tree δ → Released
  | .leaf content _ => .ofContent content
  | .branch content left right _ =>
      left.released + right.released + .ofContent content

/-- What a tree that may be absent gives back. -/
def releasedOf : Option (Tree δ) → Released
  | none => .nothing
  | some tree => tree.released

/-- The attribute's name, the operator and the value of a whole rule. -/
def parts? (tree : Tree δ) : Option (String × Operator × Tree δ) :=
  match tree.content.operator?, tree.left?, tree.right? with
  | some op, some left, some right =>
      left.content.name?.map fun name => (name, op, right)
  | _, _, _ => none

/-- What a node writes of itself, besides its children. -/
def word : Content → List Char
  | .attr name => name.toList
  | .amount .absolute value => Content.amountStyle.number value
  | .amount .own value => Content.amountStyle.number value ++ ['%']
  | .amount .width value => Content.amountStyle.number value ++ ['%', 'w']
  | .amount .height value => Content.amountStyle.number value ++ ['%', 'h']
  | .coordinate _ text => text.toList
  | .nil => ['n', 'i', 'l']
  | .operator op => op.characters

/-- A node writes of itself what a piece with its content writes. -/
@[simp] theorem word_eq_characters
    (content : Content) :
    word content = content.characters := by
  cases content with
  | attr name => rfl
  | amount basis value =>
      cases basis with
      | absolute => exact (List.append_nil _).symm
      | own => rfl
      | width => rfl
      | height => rfl
  | coordinate basis text => rfl
  | nil => rfl
  | operator op => exact (Content.characters_operator op).symm

/-- The rule that a tree stands for, its pieces parted by single spaces. -/
def characters : Tree δ → List Char
  | .leaf content _ => word content
  | .branch content left right _ =>
      left.characters ++ ' ' :: (word content ++ ' ' :: right.characters)

/-- The canonical text of the rule that a tree stands for. -/
def text (tree : Tree δ) : String :=
  String.ofList tree.characters

end Tree

end LayoutRules
