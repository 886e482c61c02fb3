import LayoutRules.Proofs.Tree.Alike
import LayoutRules.Tree.Outline

/-!
# Outlines of trees that are alike

The outline of a tree is a text with a gap behind the other fields of every
node. A gap is closed where the node's slot is empty and has the field that
tells of data where it is not. The text around the gaps does not depend on the
slots, so the outlines of trees that are alike have it in common, in both
layouts.
-/

namespace LayoutRules

namespace Text

/-- How outlines are written: what stands before, between and behind the fields of a record. -/
structure OutlineLayout where
  part : Nat → Outline → String
  opening : Nat → String
  separator : Nat → String
  closing : Nat → String

namespace OutlineLayout

/-- Everything on one line. -/
def inline : OutlineLayout where
  part _ outline := outline.inline
  opening _ := " \x7b "
  separator _ := ", "
  closing _ := " \x7d"

/-- Every field on a line of its own, four columns deeper than its record. -/
def lines : OutlineLayout where
  part depth outline := outline.indented depth
  opening depth := " \x7b\n" ++ outlineMargin (depth + 1)
  separator depth := ",\n" ++ outlineMargin (depth + 1)
  closing depth := ",\n" ++ outlineMargin depth ++ "\x7d"

/-- A field behind its label. -/
def field
    (layout : OutlineLayout)
    (depth : Nat)
    (label : String)
    (part : Outline) :
    String :=
  label ++ ": " ++ layout.part (depth + 1) part

/-- The fields that follow the first one of a record. -/
def fields
    (layout : OutlineLayout)
    (depth : Nat) :
    Fields → String
  | .none => ""
  | .cons label part rest =>
      layout.separator depth ++ layout.field depth label part ++ layout.fields depth rest

/-- Atoms are written as they are, and records by their fields. -/
structure IsRegular (layout : OutlineLayout) : Prop where
  atom :
    ∀ depth text, layout.part depth (.atom text) = text
  record :
    ∀ depth name label part rest,
      layout.part depth (.record name (.cons label part rest)) =
        name ++ layout.opening depth ++ layout.field depth label part ++
          layout.fields depth rest ++ layout.closing depth

theorem fields_inline
    (depth : Nat)
    (rest : Fields) :
    inline.fields depth rest = rest.inline := by
  match rest with
  | .none => rfl
  | .cons label part rest =>
      rw [fields, fields_inline depth rest]
      simp only [field, inline, Fields.inline, String.append_assoc]

theorem isRegular_inline :
    inline.IsRegular where
  atom _ _ := rfl
  record depth name label part rest := by
    rw [fields_inline]
    simp only [inline, field, Outline.inline, String.append_assoc]

/-- A line ends behind a field, so the break before the first of them stands behind the last. -/
theorem fields_lines
    (depth : Nat)
    (rest : Fields) :
    lines.fields depth rest ++ ",\n" = ",\n" ++ rest.indented (depth + 1) := by
  match rest with
  | .none => rfl
  | .cons label part rest =>
      have hrest := fields_lines depth rest
      simp only [fields, String.append_assoc, hrest]
      simp only [field, lines, Fields.indented, String.append_assoc]

theorem isRegular_lines :
    lines.IsRegular where
  atom _ _ := rfl
  record depth name label part rest := by
    have hrest := fields_lines depth rest
    have hclosing :
        lines.fields depth rest ++ lines.closing depth =
          ",\n" ++ rest.indented (depth + 1) ++ (outlineMargin depth ++ "\x7d") := by
      rw [← hrest]
      simp only [lines, String.append_assoc]
    simp only [String.append_assoc, hclosing]
    simp only [lines, field, Outline.indented, String.append_assoc]

end OutlineLayout

/-- A piece of a text with gaps: what stands there, or a gap in a record of some depth. -/
inductive Segment where
  | plain (text : String)
  | gap (depth : Nat)

namespace OutlineLayout

/-- The text in which the gaps that are flagged tell of data; the others are closed. -/
def fill
    (layout : OutlineLayout) :
    List Segment → List Bool → String
  | [], _ => ""
  | .plain text :: rest, flags => text ++ layout.fill rest flags
  | .gap _ :: rest, [] => layout.fill rest []
  | .gap depth :: rest, flag :: flags =>
      (if flag then layout.separator depth ++ "data: \"..\"" else "") ++ layout.fill rest flags

end OutlineLayout
end Text

namespace Tree

open Text

variable {δ : Type}

/-- Which nodes have data in their slots. -/
def filled (tree : Tree δ) : List Bool :=
  tree.slots.map Option.isSome

/-- The text of a tree's outline, with a gap for the data of every node. -/
def frame
    (layout : OutlineLayout)
    (depth : Nat) :
    Tree δ → List Segment
  | .leaf content _ =>
      [.plain ("Ast" ++ layout.opening depth ++ layout.field depth "kind" content.kindOutline),
        .gap depth, .plain (layout.closing depth)]
  | .branch content left right _ =>
      .plain ("Ast" ++ layout.opening depth ++ layout.field depth "kind" content.kindOutline) ::
        .plain (layout.separator depth ++ "left: ") ::
          (left.frame layout (depth + 1) ++
            .plain (layout.separator depth ++ "right: ") ::
              (right.frame layout (depth + 1) ++ [.gap depth, .plain (layout.closing depth)]))

variable {layout : OutlineLayout}

/-- Nothing in a frame comes from the slots. -/
theorem Alike.frame_eq
    {first second : Tree δ}
    (h : Alike first second)
    (layout : OutlineLayout)
    (depth : Nat) :
    first.frame layout depth = second.frame layout depth := by
  induction h generalizing depth with
  | leaf => rfl
  | branch hleft hright ihLeft ihRight => simp only [frame, ihLeft, ihRight]

/-- The field for data is there exactly if the slot is filled. -/
theorem fields_slotFields
    (h : layout.IsRegular)
    (depth : Nat)
    (slot : Option δ) :
    layout.fields depth (slotFields slot) =
      if slot.isSome then layout.separator depth ++ "data: \"..\"" else "" := by
  cases slot with
  | none => rfl
  | some data =>
      have hquoted : "data" ++ ": " ++ quoted ".." = "data: \"..\"" := by decide
      show layout.separator depth ++
          ("data" ++ ": " ++ layout.part (depth + 1) (.atom (quoted ".."))) ++ "" = _
      rw [h.atom, hquoted, String.append_empty]
      rfl

/-- The outline of a tree is its frame, with the gaps filled by the slots. -/
theorem fill_frame_append
    (h : layout.IsRegular)
    (tree : Tree δ)
    (depth : Nat)
    (rest : List Segment)
    (flags : List Bool) :
    layout.fill (tree.frame layout depth ++ rest) (tree.filled ++ flags) =
      layout.part depth tree.outline ++ layout.fill rest flags := by
  induction tree generalizing depth rest flags with
  | leaf content slot =>
      rw [outline, h.record, fields_slotFields h]
      simp only [frame, filled, slots, List.map_cons, List.map_nil, List.cons_append,
        List.nil_append, OutlineLayout.fill, String.append_assoc]
  | branch content left right slot ihLeft ihRight =>
      rw [outline, h.record, OutlineLayout.fields, OutlineLayout.fields, fields_slotFields h]
      have hfilled :
          (branch content left right slot).filled ++ flags =
            left.filled ++ (right.filled ++ slot.isSome :: flags) := by
        simp [filled, slots]
      have hfirst : "left: " = "left" ++ ": " := by decide
      have hsecond : "right: " = "right" ++ ": " := by decide
      rw [hfilled]
      simp only [frame, List.cons_append, List.append_assoc, List.nil_append,
        OutlineLayout.fill, ihLeft, ihRight, OutlineLayout.field, hfirst, hsecond,
        String.append_assoc]

theorem fill_frame
    (h : layout.IsRegular)
    (tree : Tree δ)
    (depth : Nat) :
    layout.fill (tree.frame layout depth) tree.filled = layout.part depth tree.outline := by
  have happend := fill_frame_append h tree depth [] []
  rw [List.append_nil, List.append_nil] at happend
  rw [happend, OutlineLayout.fill, String.append_empty]

end Tree
end LayoutRules
