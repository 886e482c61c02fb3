import LayoutRules.Proofs.Tree.Outlines
import Mathlib.Logic.Function.Basic

/-!
# Trees and the data in their slots

A history makes trees and holds them under numbers: it makes nodes over trees
that it holds, reads trees from sources, copies a tree or a part of one, and
gives trees back. At any time it may put data into the slot of a tree that it
holds, or take the data out. A tree that becomes an operand takes along what is
in its slots.

Histories that differ only in what they put and take hold trees that are alike.
A step changes nothing but what it concerns. The trees that histories lead to
are those that can be built.
-/

namespace LayoutRules
namespace Tree

variable {δ : Type}

/-- One of the two children of a node. -/
inductive Side where
  | left
  | right

/-- The child on a side. -/
def child? (tree : Tree δ) : Side → Option (Tree δ)
  | .left => tree.left?
  | .right => tree.right?

/-- The part of a tree that is reached from the root by a way down. -/
def part? : List Side → Tree δ → Option (Tree δ)
  | [], tree => some tree
  | side :: way, tree => (tree.child? side).bind (part? way)

/-- The trees that are held, by number. -/
abbrev Holdings (δ : Type) : Type :=
  Nat → Option (Tree δ)

namespace Holdings

/-- Nothing is held. -/
def nothing : Holdings δ :=
  fun _ => none

/-- The tree that is to be an operand, if there is to be one. -/
def operand
    (held : Holdings δ)
    (number : Option Nat) :
    Option (Tree δ) :=
  number.bind held

/-- What is still held when an operand was moved out. -/
def without
    (held : Holdings δ) :
    Option Nat → Holdings δ
  | none => held
  | some number => Function.update held number none

/-- What is held when a tree was made; a failure leaves everything as it is. -/
def store
    (held : Holdings δ)
    (target : Nat) :
    Option (Tree δ) → Holdings δ
  | none => held
  | some tree => Function.update held target (some tree)

/-- What the step that takes the data out of a tree delivers, if the tree is held. -/
def taken
    (held : Holdings δ)
    (number : Nat) :
    Option δ :=
  (held number).bind slot

end Holdings

/-- A step of a history. -/
inductive Move (δ : Type) : Type 1 where
  /-- A node over trees that are held, which are moved out even if it is refused. -/
  | create (content : Content) (left right : Option Nat) (target : Nat)
  | read {σ : Type} [Source σ] (reader : Reader σ) (target : Nat)
  | copy (way : List Side) (origin target : Nat)
  | release (number : Nat)
  | put (number : Nat) (data : δ)
  | take (number : Nat)

namespace Move

/-- What is held after a step. -/
def apply : Move δ → Holdings δ → Holdings δ
  | .create content left right target, held =>
      let rest := held.without left
      (rest.without right).store target
        (Tree.create content (held.operand left) (rest.operand right)).toOption
  | @Move.read _ σ _ reader target, held =>
      held.store target (reader.read : Step σ (Tree δ)).outcome.toOption
  | .copy way origin target, held =>
      held.store target (((held origin).bind (part? way)).map Tree.copy)
  | .release number, held => held.without (some number)
  | .put number data, held =>
      Function.update held number ((held number).map (withSlot (some data)))
  | .take number, held =>
      Function.update held number ((held number).map (withSlot none))

/-- Whether a step does something else than to put data into a slot or take them out. -/
def isConstruction : Move δ → Bool
  | .put _ _ => false
  | .take _ => false
  | _ => true

/-- A step changes what is held under a number. -/
def Concerns : Move δ → Nat → Prop
  | .create _ left right target, number =>
      left = some number ∨ right = some number ∨ target = number
  | @Move.read _ _ _ _ target, number => target = number
  | .copy _ _ target, number => target = number
  | .release target, number => target = number
  | .put target _, number => target = number
  | .take target, number => target = number

variable {held : Holdings δ}

/-- A step makes a tree, which is then held under a number. -/
inductive Makes (held : Holdings δ) : Move δ → Nat → Tree δ → Prop
  | create
      {content : Content} {left right : Option Nat} {target : Nat} {tree : Tree δ}
      (h :
        Tree.create content (held.operand left) ((held.without left).operand right) =
          .ok tree) :
      Makes held (.create content left right target) target tree
  | read
      {σ : Type} [Source σ] {reader : Reader σ} {target : Nat} {tree : Tree δ}
      (h : (reader.read : Step σ (Tree δ)).outcome = .ok tree) :
      Makes held (.read reader target) target tree
  | copy
      {way : List Side} {origin target : Nat} {part : Tree δ}
      (h : (held origin).bind (part? way) = some part) :
      Makes held (.copy way origin target) target part.copy

theorem Makes.apply_self
    {move : Move δ} {number : Nat} {tree : Tree δ}
    (h : Makes held move number tree) :
    move.apply held number = some tree := by
  cases h with
  | create h =>
      simp only [apply, h]
      exact Function.update_self ..
  | read h =>
      simp only [apply, h]
      exact Function.update_self ..
  | copy h =>
      simp only [apply, h]
      exact Function.update_self ..

/-- Neither a new node nor a tree that is read has data in its slot, and no copy has. -/
theorem Makes.slot_eq_none
    {move : Move δ} {number : Nat} {tree : Tree δ}
    (h : Makes held move number tree) :
    tree.slot = none := by
  cases h with
  | create h =>
      rcases cases_of_create h with ⟨-, -, -, rfl⟩ | ⟨first, second, -, -, -, -, -, rfl⟩
      · rfl
      · rfl
  | read h =>
      obtain ⟨name, op, value, -, rfl⟩ := Reader.ofParts_of_read h
      rfl
  | @copy way origin target part h => cases part <;> rfl

end Move

/-- What is held after a history. -/
def run (moves : List (Move δ)) (held : Holdings δ) : Holdings δ :=
  moves.foldl (fun held move => move.apply held) held

/-- The steps that neither put data nor take them. -/
def constructions (moves : List (Move δ)) : List (Move δ) :=
  moves.filter Move.isConstruction

/-- Under every number trees that are alike are held, or none. -/
def AlikeHoldings (held other : Holdings δ) : Prop :=
  ∀ number, AlikeIfAny (held number) (other number)

section Alike

variable {held other : Holdings δ} {tree tree' : Option (Tree δ)}

theorem Alike.child
    {first second : Tree δ}
    (h : Alike first second)
    (side : Side) :
    AlikeIfAny (first.child? side) (second.child? side) := by
  cases side with
  | left => exact h.left
  | right => exact h.right

theorem AlikeIfAny.bind
    {next : Tree δ → Option (Tree δ)}
    (h : AlikeIfAny tree tree')
    (hnext : ∀ first second, Alike first second → AlikeIfAny (next first) (next second)) :
    AlikeIfAny (tree.bind next) (tree'.bind next) := by
  cases h with
  | none => exact .none
  | some h => exact hnext _ _ h

theorem AlikeIfAny.map
    {next : Tree δ → Tree δ}
    (h : AlikeIfAny tree tree')
    (hnext : ∀ first second, Alike first second → Alike (next first) (next second)) :
    AlikeIfAny (tree.map next) (tree'.map next) := by
  cases h with
  | none => exact .none
  | some h => exact .some (hnext _ _ h)

/-- Parts of trees that are alike, reached by the same way, are alike. -/
theorem Alike.part
    {first second : Tree δ}
    (h : Alike first second)
    (way : List Side) :
    AlikeIfAny (part? way first) (part? way second) := by
  induction way generalizing first second with
  | nil => exact .some h
  | cons side way ih => exact (h.child side).bind fun _ _ => ih

theorem AlikeOutcomes.toOption
    {outcome outcome' : Except Refusal (Tree δ)}
    (h : AlikeOutcomes outcome outcome') :
    AlikeIfAny outcome.toOption outcome'.toOption := by
  cases h with
  | refused => exact .none
  | created h => exact .some h

theorem alikeHoldings_refl
    (held : Holdings δ) :
    AlikeHoldings held held :=
  fun number => AlikeIfAny.refl (held number)

theorem AlikeHoldings.update
    (h : AlikeHoldings held other)
    (htree : AlikeIfAny tree tree')
    (target : Nat) :
    AlikeHoldings (Function.update held target tree) (Function.update other target tree') := by
  intro number
  by_cases hnumber : number = target
  · rw [hnumber, Function.update_self, Function.update_self]
    exact htree
  · rw [Function.update_of_ne hnumber, Function.update_of_ne hnumber]
    exact h number

theorem AlikeHoldings.operand
    (h : AlikeHoldings held other)
    (number : Option Nat) :
    AlikeIfAny (held.operand number) (other.operand number) := by
  cases number with
  | none => exact .none
  | some number => exact h number

theorem AlikeHoldings.without
    (h : AlikeHoldings held other)
    (number : Option Nat) :
    AlikeHoldings (held.without number) (other.without number) := by
  cases number with
  | none => exact h
  | some number => exact h.update .none number

theorem AlikeHoldings.store
    (h : AlikeHoldings held other)
    (htree : AlikeIfAny tree tree')
    (target : Nat) :
    AlikeHoldings (held.store target tree) (other.store target tree') := by
  cases htree with
  | none => exact h
  | some htree => exact h.update (.some htree) target

/-- A step leads from holdings that are alike to holdings that are alike. -/
theorem AlikeHoldings.apply
    (h : AlikeHoldings held other)
    (move : Move δ) :
    AlikeHoldings (move.apply held) (move.apply other) := by
  cases move with
  | create content left right target =>
      have hrest := h.without left
      have hmade := create_alike content (h.operand left) (hrest.operand right)
      exact (hrest.without right).store hmade.toOption target
  | read reader target => exact h.store (AlikeIfAny.refl _) target
  | copy way origin target =>
      have hpart := (h origin).bind fun _ _ halike => halike.part way
      have hcopies := hpart.map fun first second halike =>
        (alike_copy first).symm.trans (halike.trans (alike_copy second))
      exact h.store hcopies target
  | release number => exact h.without (some number)
  | put number data =>
      exact h.update ((h number).map fun _ _ halike => halike.withSlot _ _) number
  | take number =>
      exact h.update ((h number).map fun _ _ halike => halike.withSlot _ _) number

/-- Data are put and taken without any other change. -/
theorem alike_apply_of_slot
    {move : Move δ}
    (h : move.isConstruction = false)
    (held : Holdings δ) :
    AlikeHoldings (move.apply held) held := by
  have hslotted (target : Nat) (data : Option δ) :
      AlikeHoldings (Function.update held target ((held target).map (withSlot data))) held := by
    have hroot : AlikeIfAny ((held target).map (withSlot data)) (held target) := by
      cases held target with
      | none => exact .none
      | some tree => exact .some (alike_withSlot tree data)
    have hupdate := (alikeHoldings_refl held).update hroot target
    rwa [Function.update_eq_self] at hupdate
  cases move with
  | put number data => exact hslotted number (some data)
  | take number => exact hslotted number none
  | _ => cases h

end Alike

section Runs

variable {held other : Holdings δ}

theorem run_append
    (first second : List (Move δ))
    (held : Holdings δ) :
    run (first ++ second) held = run second (run first held) :=
  List.foldl_append

/-- The trees of a history are alike to those of the history without puts and takes. -/
theorem alike_run_constructions
    (h : AlikeHoldings held other)
    (moves : List (Move δ)) :
    AlikeHoldings (run moves held) (run (constructions moves) other) := by
  induction moves generalizing held other with
  | nil => exact h
  | cons move moves ih =>
      cases hmove : move.isConstruction with
      | true =>
          rw [constructions, List.filter_cons_of_pos hmove]
          exact ih (h.apply move)
      | false =>
          rw [constructions, List.filter_cons_of_neg (by simp [hmove])]
          exact ih fun number => (alike_apply_of_slot hmove held number).trans (h number)

/-- Histories that differ only in puts and takes hold trees that are alike. -/
theorem alike_run
    {moves moves' : List (Move δ)}
    (h : constructions moves = constructions moves')
    (hheld : AlikeHoldings held other) :
    AlikeHoldings (run moves held) (run moves' other) := by
  intro number
  have hfirst := alike_run_constructions hheld moves number
  have hsecond := alike_run_constructions (alikeHoldings_refl other) moves' number
  rw [h] at hfirst
  exact hfirst.trans hsecond.symm

end Runs

section Unconcerned

variable {held : Holdings δ} {number : Nat}

theorem Holdings.without_of_ne
    {target : Option Nat}
    (h : target ≠ some number) :
    held.without target number = held number := by
  cases target with
  | none => rfl
  | some target =>
      refine Function.update_of_ne ?_ _ held
      rintro rfl
      exact h rfl

theorem Holdings.store_of_ne
    {target : Nat}
    (h : target ≠ number)
    (tree : Option (Tree δ)) :
    held.store target tree number = held number := by
  cases tree with
  | none => rfl
  | some tree => exact Function.update_of_ne h.symm _ held

/-- A step leaves alone what it does not concern. -/
theorem Move.apply_of_not_concerns
    {move : Move δ}
    (h : ¬move.Concerns number)
    (held : Holdings δ) :
    move.apply held number = held number := by
  cases move with
  | create content left right target =>
      obtain ⟨hleft, hright, htarget⟩ : left ≠ some number ∧ right ≠ some number ∧
          target ≠ number := by
        simpa [Move.Concerns, not_or] using h
      exact (Holdings.store_of_ne htarget _).trans
        ((Holdings.without_of_ne hright).trans (Holdings.without_of_ne hleft))
  | read reader target => exact Holdings.store_of_ne h _
  | copy way origin target => exact Holdings.store_of_ne h _
  | release target => exact Holdings.without_of_ne fun heq => h (Option.some.inj heq)
  | put target data => exact Function.update_of_ne (Ne.symm h) _ held
  | take target => exact Function.update_of_ne (Ne.symm h) _ held

theorem run_of_not_concerns
    {moves : List (Move δ)}
    (h : ∀ move ∈ moves, ¬move.Concerns number)
    (held : Holdings δ) :
    run moves held number = held number := by
  induction moves generalizing held with
  | nil => rfl
  | cons move moves ih =>
      obtain ⟨hmove, hmoves⟩ := List.forall_mem_cons.mp h
      exact (ih hmoves (move.apply held)).trans (Move.apply_of_not_concerns hmove held)

end Unconcerned

section Built

/-- Every tree that is held can be built. -/
def BuiltHoldings (held : Holdings δ) : Prop :=
  ∀ number, ∀ tree ∈ held number, Built tree

variable {held : Holdings δ}

theorem builtHoldings_nothing :
    BuiltHoldings (Holdings.nothing : Holdings δ) := by
  rintro number tree ⟨⟩

theorem BuiltHoldings.update
    {tree : Option (Tree δ)}
    (h : BuiltHoldings held)
    (htree : ∀ made ∈ tree, Built made)
    (target : Nat) :
    BuiltHoldings (Function.update held target tree) := by
  intro number
  by_cases hnumber : number = target
  · rw [hnumber, Function.update_self]
    exact htree
  · rw [Function.update_of_ne hnumber]
    exact h number

theorem BuiltHoldings.operand
    (h : BuiltHoldings held)
    (number : Option Nat) :
    ∀ tree ∈ held.operand number, Built tree := by
  cases number with
  | none => rintro tree ⟨⟩
  | some number => exact h number

theorem BuiltHoldings.without
    (h : BuiltHoldings held)
    (number : Option Nat) :
    BuiltHoldings (held.without number) := by
  cases number with
  | none => exact h
  | some number =>
      refine h.update ?_ number
      rintro tree ⟨⟩

theorem BuiltHoldings.store
    {tree : Option (Tree δ)}
    (h : BuiltHoldings held)
    (htree : ∀ made ∈ tree, Built made)
    (target : Nat) :
    BuiltHoldings (held.store target tree) := by
  cases tree with
  | none => exact h
  | some tree => exact h.update htree target

theorem Built.part
    {tree part : Tree δ}
    (h : Built tree)
    {way : List Side}
    (hpart : part? way tree = some part) :
    Built part := by
  induction way generalizing tree with
  | nil =>
      cases hpart
      exact h
  | cons side way ih =>
      obtain ⟨child, hchild, hbelow⟩ := Option.bind_eq_some_iff.mp hpart
      cases side with
      | left => exact ih (h.leftChild hchild) hbelow
      | right => exact ih (h.rightChild hchild) hbelow

theorem eq_ok_of_mem_toOption
    {ε α : Type} {outcome : Except ε α} {a : α}
    (h : a ∈ outcome.toOption) :
    outcome = .ok a := by
  cases outcome with
  | error error => cases h
  | ok b =>
      cases h
      rfl

/-- Steps make trees that can be built of trees that can be built. -/
theorem BuiltHoldings.apply
    (h : BuiltHoldings held)
    (move : Move δ) :
    BuiltHoldings (move.apply held) := by
  have hslotted (target : Nat) (slot : Option δ) :
      BuiltHoldings (Function.update held target ((held target).map (withSlot slot))) := by
    refine h.update ?_ target
    intro made hmade
    obtain ⟨tree, htree, rfl⟩ := Option.map_eq_some_iff.mp hmade
    exact (h target tree htree).slotted slot
  cases move with
  | create content left right target =>
      have hrest := h.without left
      refine (hrest.without right).store ?_ target
      intro made hmade
      exact .created (h.operand left) (hrest.operand right) (eq_ok_of_mem_toOption hmade)
  | read reader target =>
      refine h.store ?_ target
      intro made hmade
      exact .read (eq_ok_of_mem_toOption hmade)
  | copy way origin target =>
      refine h.store ?_ target
      intro made hmade
      obtain ⟨part, hpart, rfl⟩ := Option.map_eq_some_iff.mp hmade
      obtain ⟨tree, htree, hpart⟩ := Option.bind_eq_some_iff.mp hpart
      exact ((h origin tree htree).part hpart).copied
  | release number => exact h.without (some number)
  | put number data => exact hslotted number (some data)
  | take number => exact hslotted number none

theorem BuiltHoldings.run
    (h : BuiltHoldings held)
    (moves : List (Move δ)) :
    BuiltHoldings (run moves held) := by
  induction moves generalizing held with
  | nil => exact h
  | cons move moves ih => exact ih (h.apply move)

/-- The step that leaves the slot of a tree with data or empty. -/
def setting (number : Nat) : Option δ → Move δ
  | none => .take number
  | some data => .put number data

/-- A node is made and its slot filled. -/
def making
    (content : Content)
    (left right : Option Nat)
    (target : Nat)
    (slot : Option δ) :
    List (Move δ) :=
  [.create content left right target, setting target slot]

theorem run_making
    {content : Content} {left right : Option Nat} {tree : Tree δ}
    (h : create content (held.operand left) ((held.without left).operand right) = .ok tree)
    (target : Nat)
    (slot : Option δ) :
    Tree.run (making content left right target slot) held target =
      some (tree.withSlot slot) := by
  have hcreate : (Move.create content left right target).apply held target = some tree :=
    (Move.Makes.create h).apply_self
  have hsetting (held : Holdings δ) :
      (setting target slot).apply held target = (held target).map (withSlot slot) := by
    cases slot <;> exact Function.update_self ..
  have hrun := hsetting ((Move.create content left right target).apply held)
  rwa [hcreate] at hrun

theorem run_making_leaf
    {content : Content}
    (h : content.category.isOperator = false)
    (held : Holdings δ)
    (target : Nat)
    (slot : Option δ) :
    Tree.run (making content none none target slot) held target = some (.leaf content slot) := by
  have hcreate :
      create content (held.operand none) ((held.without none).operand none) =
        .ok (.leaf content none) :=
    create_leaf h
  have hmade := run_making hcreate target slot
  exact hmade

theorem not_concerns_making
    {content : Content} {slot : Option δ} {number target : Nat}
    (h : target ≠ number) :
    ∀ move ∈ making content none none target slot, ¬move.Concerns number := by
  intro move hmove
  rcases List.mem_pair.mp hmove with rfl | rfl
  · simpa [Move.Concerns] using h
  · cases slot <;> exact h

/-- The trees that can be built are those that some history leads to. -/
theorem built_iff_exists_run
    {tree : Tree δ} :
    Built tree ↔ ∃ moves number, Tree.run moves Holdings.nothing number = some tree := by
  constructor
  · intro hbuilt
    cases hbuilt.shaped with
    | @single content slot h => exact ⟨_, 0, run_making_leaf h Holdings.nothing 0 slot⟩
    | @rule name op value leftSlot rightSlot slot h =>
        let first : List (Move δ) := making (.attr name) none none 0 leftSlot
        let second : List (Move δ) := making value none none 1 rightSlot
        let held := Tree.run second (Tree.run first Holdings.nothing)
        have hfirst : held 0 = some (.leaf (.attr name) leftSlot) :=
          (run_of_not_concerns (not_concerns_making Nat.one_ne_zero) _).trans
            (run_making_leaf rfl Holdings.nothing 0 leftSlot)
        have hsecond : held 1 = some (.leaf value rightSlot) :=
          run_making_leaf (Category.isOperator_eq_false_of_isValue h) _ 1 rightSlot
        have hother : (some 0 : Option Nat) ≠ some 1 := by decide
        have hright : (held.without (some 0)).operand (some 1) = some (.leaf value rightSlot) :=
          (Holdings.without_of_ne hother).trans hsecond
        have hcreate :
            create (.operator op) (held.operand (some 0))
                ((held.without (some 0)).operand (some 1)) =
              .ok (.branch (.operator op) (.leaf (.attr name) leftSlot)
                (.leaf value rightSlot) none) := by
          rw [hright]
          exact (congrArg (create _ · _) hfirst).trans (create_rule op rfl h)
        refine ⟨first ++ (second ++ making (.operator op) (some 0) (some 1) 2 slot), 2, ?_⟩
        rw [run_append, run_append]
        exact run_making hcreate 2 slot
  · rintro ⟨moves, number, hrun⟩
    exact builtHoldings_nothing.run moves number tree hrun

end Built

end Tree
end LayoutRules
