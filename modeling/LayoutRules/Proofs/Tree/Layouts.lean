import LayoutRules.Proofs.Json.Blanks
import LayoutRules.Proofs.Tree.Restored

/-!
# The two layouts of a tree

The text of a tree over several lines and the one on a single line are the
same document. They differ in nothing but blanks outside of texts, and of both
the member for a number is missing when the number is not finite, wherever in
the tree the number is.
-/

namespace LayoutRules

theorem Content.payloadDocument?_amount_eq_none_iff
    (basis : Basis)
    (amount : Binary64) :
    (Content.amount basis amount).payloadDocument? = none ↔ amount.isFinite = false := by
  cases hfinite : amount.isFinite <;> simp [payloadDocument?, hfinite]

namespace Tree

variable {δ : Type}

/-- The part of a document that stands for a node of a tree, wherever in the tree the node is. -/
inductive Describes
    (document : Json.Value)
    (tree : Tree δ) :
    Json.Value → Tree δ → Prop
  | root : Describes document tree document tree
  | left
      {part child : Json.Value} {node below : Tree δ}
      (h : Describes document tree part node)
      (hchild : part.member? "left" = some child)
      (hbelow : node.left? = some below) :
      Describes document tree child below
  | right
      {part child : Json.Value} {node below : Tree δ}
      (h : Describes document tree part node)
      (hchild : part.member? "right" = some child)
      (hbelow : node.right? = some below) :
      Describes document tree child below

/-- In the document of a tree the part that stands for a node is the document of the node. -/
theorem Describes.eq_document
    {tree node : Tree δ} {part : Json.Value}
    (h : Describes tree.document tree part node) :
    part = node.document := by
  induction h with
  | root => rfl
  | left h hchild hbelow ih =>
      rw [ih, document_left, hbelow] at hchild
      exact (Option.some.inj hchild).symm
  | right h hchild hbelow ih =>
      rw [ih, document_right, hbelow] at hchild
      exact (Option.some.inj hchild).symm

theorem Describes.member?_value
    {tree node : Tree δ} {part : Json.Value}
    (h : Describes tree.document tree part node) :
    part.member? "value" = node.content.payloadDocument? := by
  rw [h.eq_document, document_value]

/--
The text of a tree over several lines, less the blanks outside of its texts, is
the text on one line, from which there is no such blank to delete. Both are
documents of the same values. In what they are documents of, the part for any
node with a number has no value exactly if the number is not finite.
-/
theorem layouts_differ_in_blanks
    (tree : Tree δ) :
    String.ofList (Json.squeeze .outside tree.prettyJson.toList) = tree.json ∧
    Json.squeeze .outside tree.json.toList = tree.json.toList ∧
    (∀ document,
      Json.IsDocument tree.prettyJson.toList document ↔
        Json.IsDocument tree.json.toList document) ∧
    (∀ document,
      Json.IsDocument tree.prettyJson.toList document ∨
        Json.IsDocument tree.json.toList document →
      ∀ part node basis amount,
        Describes document tree part node →
        node.content = .amount basis amount →
        (part.member? "value" = none ↔ amount.isFinite = false)) := by
  have hsqueezed :
      Json.squeeze .outside (tree.document.pretty 0) = tree.document.compact :=
    Json.squeeze_pretty tree.document_isFinite
  have hdocument := tree.isDocument_json_iff
  refine ⟨?_, ?_, ?_, ?_⟩
  · rw [prettyJson, String.toList_ofList, hsqueezed, json]
  · rw [json, String.toList_ofList, ← hsqueezed, Json.squeeze_squeeze]
  · intro document
    rw [(hdocument document).1, (hdocument document).2]
  · intro document hread part node basis amount hdescribes hamount
    obtain rfl : document = tree.document :=
      hread.elim (hdocument document).2.mp (hdocument document).1.mp
    rw [hdescribes.member?_value, hamount]
    exact Content.payloadDocument?_amount_eq_none_iff basis amount

/-- The blanks, the quote and the brace of a name are kept, and an infinite number is left out. -/
theorem layouts_differ_in_blanks_infinite_amount :
    let amount : Binary64 := ⟨true, Binary64.infinite, by decide⟩
    let value : Tree Unit := .leaf (.amount .own amount) none
    let tree : Tree Unit := ofParts "a \" \x7b\n b\\" .divide value.content
    String.ofList (Json.squeeze .outside tree.prettyJson.toList) = tree.json ∧
      Json.squeeze .outside tree.json.toList = tree.json.toList ∧
      Json.IsDocument tree.prettyJson.toList tree.document ∧
      tree.document.member? "right" = some value.document ∧
      value.document.member? "value" = none := by
  intro amount value tree
  obtain ⟨hsqueezed, hnothing, -, hvalue⟩ := layouts_differ_in_blanks tree
  have hdocument : Json.IsDocument tree.prettyJson.toList tree.document :=
    (tree.isDocument_json_iff tree.document).2.mpr rfl
  have hright : tree.document.member? "right" = some value.document := tree.document_right
  have hdescribes : Describes tree.document tree value.document value := .right .root hright rfl
  refine ⟨hsqueezed, hnothing, hdocument, hright, ?_⟩
  exact (hvalue tree.document (Or.inl hdocument) _ _ .own amount hdescribes rfl).mpr (by decide)

end Tree
end LayoutRules
