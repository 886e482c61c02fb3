import LayoutRules.Proofs.Tree.Histories

/-!
# Slots are invisible

Whatever a tree is asked, the answer does not depend on the data in its slots:
not its texts, its documents, its parts, what it gives back, what it is equal
to, nor what becomes of it as an operand. A copy has none of the data. Only an
outline tells which slots are filled. Taking delivers what was put last into
the same slot.
-/

namespace LayoutRules
namespace Tree

open Text (OutlineLayout)

variable {δ : Type}

/-- The outlines of two trees in a layout: one text with gaps, filled by the slots of each. -/
def ShareFrame
    (layout : OutlineLayout)
    (first second : Tree δ) :
    Prop :=
  layout.part 0 first.outline = layout.fill (first.frame layout 0) first.filled ∧
    layout.part 0 second.outline = layout.fill (first.frame layout 0) second.filled

/-- A tree with the same shape and contents as another, and with no data at any depth. -/
structure IsEmptied (copied tree : Tree δ) : Prop where
  alike : Alike copied tree
  slots : ∀ slot ∈ copied.slots, slot = none

/-- Two trees that answer everything alike but what is in their slots. -/
structure Indistinguishable (first second : Tree δ) : Prop where
  text : first.text = second.text
  json : first.json = second.json
  prettyJson : first.prettyJson = second.prettyJson
  content : first.content = second.content
  isLeaf : first.isLeaf = second.isLeaf
  left : AlikeIfAny first.left? second.left?
  right : AlikeIfAny first.right? second.right?
  parts : Option.Rel AlikeParts first.parts? second.parts?
  released : first.released = second.released
  sameLeft : ∀ third : Tree δ, first.same third = second.same third
  sameRight : ∀ third : Tree δ, third.same first = third.same second
  leftOperand :
    ∀ content right,
      AlikeOutcomes (create content (some first) right) (create content (some second) right)
  rightOperand :
    ∀ content left,
      AlikeOutcomes (create content left (some first)) (create content left (some second))
  copies : first.copy = second.copy
  emptied : IsEmptied first.copy first ∧ IsEmptied second.copy second
  inline : ShareFrame OutlineLayout.inline first second
  lines : ShareFrame OutlineLayout.lines first second

theorem isEmptied_copy
    (tree : Tree δ) :
    IsEmptied tree.copy tree where
  alike := (alike_copy tree).symm
  slots _ h := eq_none_of_mem_slots_copy h

section Alike

variable {first second : Tree δ}

theorem Alike.shareFrame
    {layout : OutlineLayout}
    (h : Alike first second)
    (hlayout : layout.IsRegular) :
    ShareFrame layout first second := by
  refine ⟨(fill_frame hlayout first 0).symm, ?_⟩
  rw [h.frame_eq]
  exact (fill_frame hlayout second 0).symm

/-- Nothing but the slots tells trees that are alike apart. -/
theorem Alike.indistinguishable
    (h : Alike first second) :
    Indistinguishable first second where
  text := h.text_eq
  json := h.json_eq
  prettyJson := h.prettyJson_eq
  content := h.content_eq
  isLeaf := h.isLeaf_eq
  left := h.left
  right := h.right
  parts := h.parts
  released := h.released_eq
  sameLeft := h.same_left
  sameRight := h.same_right
  leftOperand content right := create_alike content (.some h) (AlikeIfAny.refl right)
  rightOperand content left := create_alike content (AlikeIfAny.refl left) (.some h)
  copies := alike_iff_copy_eq.mp h
  emptied := ⟨isEmptied_copy first, isEmptied_copy second⟩
  inline := h.shareFrame OutlineLayout.isRegular_inline
  lines := h.shareFrame OutlineLayout.isRegular_lines

end Alike

section Laws

variable {held : Holdings δ} {number : Nat}

/-- What a step left under a number is still there behind steps that do not concern it. -/
theorem run_behind
    {between : List (Move δ)}
    (h : ∀ move ∈ between, ¬move.Concerns number)
    (before : List (Move δ))
    (move : Move δ)
    (held : Holdings δ) :
    run (before ++ move :: between) held number = move.apply (run before held) number := by
  rw [run_append]
  exact run_of_not_concerns h (move.apply (run before held))

/-- The data that were put are taken, if the tree is not touched in between. -/
theorem taken_of_put
    {before between : List (Move δ)} {tree : Tree δ}
    (hheld : run before held number = some tree)
    (hbetween : ∀ move ∈ between, ¬move.Concerns number)
    (data : δ) :
    (run (before ++ .put number data :: between) held).taken number = some data := by
  rw [Holdings.taken, run_behind hbetween, Move.apply, Function.update_self, hheld]
  exact slot_withSlot tree (some data)

/-- What was taken is gone until other data are put. -/
theorem taken_of_take
    {between : List (Move δ)}
    (hbetween : ∀ move ∈ between, ¬move.Concerns number)
    (before : List (Move δ))
    (held : Holdings δ) :
    (run (before ++ .take number :: between) held).taken number = none := by
  rw [Holdings.taken, run_behind hbetween, Move.apply, Function.update_self]
  cases run before held number with
  | none => rfl
  | some tree => exact slot_withSlot tree none

/-- There is nothing to take from a tree that was just made. -/
theorem taken_of_makes
    {before between : List (Move δ)} {move : Move δ} {tree : Tree δ}
    (hmakes : move.Makes (run before held) number tree)
    (hbetween : ∀ other ∈ between, ¬other.Concerns number) :
    (run (before ++ move :: between) held).taken number = none := by
  rw [Holdings.taken, run_behind hbetween, hmakes.apply_self]
  exact hmakes.slot_eq_none

end Laws

/--
The trees that histories hold are those that can be built. Two histories that
differ only in what they put into slots and take out of them hold trees that are
alike under every number, and these are indistinguishable. Taking from a tree
that is held delivers the data that were put into it last, and nothing after
they were taken, nor from a new node, a tree just read or a copy, whatever was
done to other trees meanwhile.
-/
theorem slots_are_invisible
    {moves moves' : List (Move δ)}
    (h : constructions moves = constructions moves') :
    (∀ tree : Tree δ,
      tree.Built ↔ ∃ history number, run history Holdings.nothing number = some tree) ∧
    (∀ number,
      AlikeIfAny (run moves Holdings.nothing number) (run moves' Holdings.nothing number)) ∧
    (∀ number first second,
      run moves Holdings.nothing number = some first →
      run moves' Holdings.nothing number = some second →
      Indistinguishable first second) ∧
    (∀ before between number data tree,
      run before Holdings.nothing number = some tree →
      (∀ move ∈ between, ¬move.Concerns number) →
      (run (before ++ .put number data :: between) (Holdings.nothing : Holdings δ)).taken number =
          some data ∧
        (run (before ++ .take number :: between) (Holdings.nothing : Holdings δ)).taken number =
          none) ∧
    (∀ before between number tree (move : Move δ),
      move.Makes (run before Holdings.nothing) number tree →
      (∀ other ∈ between, ¬other.Concerns number) →
      (run (before ++ move :: between) Holdings.nothing).taken number = none) := by
  have halike := alike_run h (alikeHoldings_refl Holdings.nothing)
  refine ⟨fun _ => built_iff_exists_run, halike, ?_, ?_, ?_⟩
  · intro number first second hfirst hsecond
    have hheld := halike number
    rw [hfirst, hsecond] at hheld
    cases hheld with
    | some halike => exact halike.indistinguishable
  · intro before between number data tree hheld hbetween
    exact ⟨taken_of_put hheld hbetween data, taken_of_take hbetween before _⟩
  · intro before between number tree move hmakes hbetween
    exact taken_of_makes hmakes hbetween

/-- Data in and below a rule show in its outline only; other data are taken, none from a copy. -/
theorem slots_are_invisible_data_below :
    let name : Move Nat := .create (.attr "x") none none 0
    let value : Move Nat := .create .nil none none 1
    let rule : Move Nat := .create (.operator .divide) (some 0) (some 1) 2
    let moves := [name, .put 0 7, value, .put 1 8, rule, .put 2 9]
    let moves' := [name, .put 0 1, .take 0, value, rule, .put 2 5, .take 2]
    let full : Tree Nat :=
      .branch (.operator .divide) (.leaf (.attr "x") (some 7)) (.leaf .nil (some 8)) (some 9)
    let bare : Tree Nat := ofParts "x" .divide .nil
    constructions moves = constructions moves' ∧
      run moves Holdings.nothing 2 = some full ∧
      run moves' Holdings.nothing 2 = some bare ∧
      Indistinguishable full bare ∧
      full.Built ∧
      (run [name, value, .put 0 7, .put 1 8, .take 1, .copy [] 1 3] Holdings.nothing).taken 0 =
        some 7 ∧
      (run [name, .put 0 7, .copy [] 0 3, .put 0 8] Holdings.nothing).taken 3 = none := by
  intro name value rule moves moves' full bare
  have hconstructions : constructions moves = constructions moves' := rfl
  have hfull : run moves Holdings.nothing 2 = some full := rfl
  have hbare : run moves' Holdings.nothing 2 = some bare := rfl
  obtain ⟨hbuilt, -, hindistinguishable, htaken, hmade⟩ := slots_are_invisible hconstructions
  have hheld : run [name, value] Holdings.nothing 0 = some (.leaf (.attr "x") none) := rfl
  let between : List (Move Nat) := [.put 1 8, .take 1, .copy [] 1 3]
  have hbetween : ∀ move ∈ between, ¬move.Concerns 0 := by
    simp [between, Move.Concerns]
  have hput : ∀ move ∈ ([.put 0 8] : List (Move Nat)), ¬move.Concerns 3 := by
    simp [Move.Concerns]
  exact ⟨hconstructions, hfull, hbare, hindistinguishable 2 full bare hfull hbare,
    (hbuilt full).mpr ⟨moves, 2, hfull⟩, (htaken [name, value] between 0 7 _ hheld hbetween).1,
    hmade [name, .put 0 7] [.put 0 8] 3 _ (.copy [] 0 3) (.copy rfl) hput⟩

end Tree
end LayoutRules
