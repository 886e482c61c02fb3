import LayoutRules.Tree.Basic

/-!
# Outlines of rule trees

The outline of a tree names the kind of every node and shows that a slot is
filled, though not with what.
-/

namespace LayoutRules

namespace Content

/-- The kind of a node; operators are one kind. -/
def kindOutline : Content → Text.Outline
  | .operator op => .wrapped "Op" (.atom op.name)
  | content => content.outline

end Content

namespace Tree

variable {δ : Type}

/-- The part of an outline that tells whether a slot is filled. -/
def slotFields : Option δ → Text.Fields
  | none => .none
  | some _ => .one "data" (.atom (Text.quoted ".."))

/-- How a tree is built. -/
def outline : Tree δ → Text.Outline
  | .leaf content slot =>
      .record "Ast" (.cons "kind" content.kindOutline (slotFields slot))
  | .branch content left right slot =>
      .record "Ast"
        (.cons "kind" content.kindOutline
          (.cons "left" left.outline
            (.cons "right" right.outline (slotFields slot))))

end Tree

end LayoutRules
