import LayoutRules.Json.Printer
import LayoutRules.Tree.Basic

/-!
# Rule trees as documents

A node's document has the category's number and name, the payload if it can
be written, and the children's documents; its keys are in ascending order.
-/

namespace LayoutRules

namespace Content

/-- The payload as a document; a number that is not finite has none. -/
def payloadDocument? : Content → Option Json.Value
  | .attr name => some (.text name.toList)
  | .amount _ value => if value.isFinite then some (.number value) else none
  | .coordinate _ text => some (.text text.toList)
  | .nil => none
  | .operator _ => none

end Content

namespace Tree

variable {δ : Type}

/-- The members of a node that follow its children. -/
def closingMembers (content : Content) : Json.Members :=
  .cons "type".toList (.text content.category.name.toList)
    (.consOptional "value".toList content.payloadDocument? .none)

/-- The document of a tree. -/
def document : Tree δ → Json.Value
  | .leaf content _ =>
      .object
        (.cons "code".toList (.natural content.category.code)
          (closingMembers content))
  | .branch content left right _ =>
      .object
        (.cons "code".toList (.natural content.category.code)
          (.cons "left".toList left.document
            (.cons "right".toList right.document
              (closingMembers content))))

/-- The document of a tree on one line. -/
def json (tree : Tree δ) : String :=
  String.ofList tree.document.compact

/-- The document of a tree over several lines. -/
def prettyJson (tree : Tree δ) : String :=
  String.ofList (tree.document.pretty 0)

end Tree

end LayoutRules
