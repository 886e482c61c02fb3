import LayoutRules.Proofs.Rule.Requests
import LayoutRules.Proofs.Tree.Anatomy

/-!
# What becomes of the nodes

A traced request shows the leaves that it makes, and either the rule that they
are in or what is given back of them. No leaf is lost: a rule that is read has
both of its leaves in its tree, and after a failure all leaves that were made
are given back at once, behind the making of the last of them.
-/

namespace LayoutRules

namespace Event

/-- The category of the leaf that an event shows to be made. -/
def reduction? : Event → Option Category
  | .reduced category => some category
  | _ => none

/-- What an event shows to be given back of an incomplete rule. -/
def abandonment? : Event → Option Released
  | .abandoned released => some released
  | _ => none

/-- Whether an event shows a complete rule. -/
def isAcceptance : Event → Bool
  | .accepted _ => true
  | _ => false

/-- The categories of the leaves that are shown to be made. -/
def reductions (events : List Event) : List Category :=
  events.filterMap reduction?

/-- What is shown to be given back of incomplete rules. -/
def abandonments (events : List Event) : List Released :=
  events.filterMap abandonment?

/-- The number of complete rules that are shown. -/
def acceptances (events : List Event) : Nat :=
  events.countP isAcceptance

end Event

namespace Rule

open Event

variable {δ : Type}

/-- Two leaves and one rule are shown, and the tree gives back all of its three nodes. -/
structure Completes (tree : Tree δ) (events : List Event) : Prop where
  twoReductions : (reductions events).length = 2
  oneAcceptance : acceptances events = 1
  noAbandonment : abandonments events = []
  released :
    ∃ value,
      tree.right? = some value ∧
      tree.released = ⟨3, 1 + if value.content.coordinate?.isSome then 1 else 0⟩

/-- What is given back is shown once, behind every leaf, and it is every leaf. -/
structure GivenBack
    (events front : List Event)
    (released : Released)
    (back : List Event) :
    Prop where
  split : events = front ++ .abandoned released :: back
  notBefore : abandonments front = []
  notBehind : abandonments back = []
  behindReductions : reductions back = []
  nodes : released.nodes.toNat = (reductions events).length
  buffers : released.buffers.toNat = (reductions events).countP Category.carriesText

/-- No rule is shown, and all the leaves are given back if there are any. -/
structure Fails (events : List Event) : Prop where
  noAcceptance : acceptances events = 0
  leaves :
    (reductions events = [] ∧ abandonments events = []) ∨
      ∃ front released back, GivenBack events front released back

/-- The leaves that were made are what is given back. -/
theorem Fails.of_leaves
    (front : List Event)
    {released : Released}
    (error : RuleError)
    (hacceptances : acceptances front = 0)
    (habandonments : abandonments front = [])
    (hnodes : released.nodes.toNat = (reductions front).length)
    (hbuffers : released.buffers.toNat = (reductions front).countP Category.carriesText) :
    Fails (front ++ [.abandoned released] ++ [.ruleRejected error]) := by
  have hreductions :
      reductions (front ++ [.abandoned released] ++ [.ruleRejected error]) =
        reductions front := by
    simp [reductions, reduction?]
  refine ⟨?_, Or.inr ⟨front, released, [.ruleRejected error], ?_, habandonments, rfl, rfl, ?_, ?_⟩⟩
  · simpa [acceptances, isAcceptance] using hacceptances
  · rw [List.append_assoc]
    rfl
  · rw [hreductions, hnodes]
  · rw [hreductions, hbuffers]

end Rule

namespace Reader

open Rule

variable {σ δ : Type} [Source σ]

theorem Course.completes
    {reader : Reader σ} {step : Step σ (Tree δ)} {tree : Tree δ}
    (h : reader.Course step)
    (htrace : reader.trace = true)
    (htree : step.outcome = .ok tree) :
    Completes tree step.events := by
  cases h with
  | @rule name op value first second third hattr hfirst hoperator hsecond hvalue
      hisValue hthird hfinish =>
      cases htree
      rw [traced_of_trace htrace]
      exact ⟨rfl, rfl, rfl, _, rfl, (Tree.isRuleOf_branch op name none none none hisValue).released⟩
  | _ => cases htree

/-- What a traced request shows last of a rule is that the rule is complete. -/
theorem Course.getLast?_of_ok
    {reader : Reader σ} {step : Step σ (Tree δ)} {tree : Tree δ}
    (h : reader.Course step)
    (htrace : reader.trace = true)
    (htree : step.outcome = .ok tree) :
    ∃ category, step.events.getLast? = some (.accepted category) := by
  cases h with
  | rule hattr hfirst hoperator hsecond hvalue hisValue hthird hfinish =>
      rw [traced_of_trace htrace]
      exact ⟨_, rfl⟩
  | _ => cases htree

theorem Course.fails
    {reader : Reader σ} {step : Step σ (Tree δ)} {error : RuleError}
    (h : reader.Course step)
    (htrace : reader.trace = true)
    (herror : step.outcome = .error error) :
    Fails (step.events ++ [.ruleRejected error]) := by
  have hnothing : Fails [.ruleRejected error] := ⟨rfl, Or.inl ⟨rfl, rfl⟩⟩
  cases h with
  | empty hfinish => exact hnothing
  | noAttribute hpiece hattr => exact hnothing
  | attributeLost hattr hloses => exact hnothing
  | noOperator hattr hfirst hoperator =>
      rw [traced_of_trace htrace]
      exact Fails.of_leaves [reader.shifting, .reduced .attr] error rfl rfl rfl rfl
  | operatorLost hattr hfirst hoperator hloses =>
      rw [traced_of_trace htrace]
      exact Fails.of_leaves [reader.shifting, .reduced .attr] error rfl rfl rfl rfl
  | @noValue name op first second hattr hfirst hoperator hsecond hvalue =>
      rw [traced_of_trace htrace]
      exact Fails.of_leaves [reader.shifting, .reduced .attr, first.shifting] error
        rfl rfl rfl rfl
  | @valueLost name op value cause first second after hattr hfirst hoperator hsecond
      hvalue hisValue hloses =>
      rw [traced_of_trace htrace]
      exact Fails.of_leaves [reader.shifting, .reduced .attr, first.shifting] error
        rfl rfl rfl rfl
  | @trailing name op value first second third hattr hfirst hoperator hsecond hvalue
      hisValue hthird htrailing =>
      rw [traced_of_trace htrace]
      refine Fails.of_leaves
        [reader.shifting, .reduced .attr, first.shifting, second.shifting,
          .reduced value.category]
        error rfl rfl rfl ?_
      -- Only here the number of texts depends on what was read.
      cases value <;> rfl
  | rule hattr hfirst hoperator hsecond hvalue hisValue hthird hfinish => cases herror

/--
A traced request to a reader in any state accounts for the nodes that it
makes. If it reads a rule, it makes two leaves and accepts one rule, gives
nothing back, and the tree has all of its nodes. If it fails, it accepts
nothing, and the leaves that it made are given back once. The last thing shown
is a rejection exactly if it fails, and then that of its error.
-/
theorem requests_account_for_nodes
    (reader : Reader σ)
    (htrace : reader.trace = true)
    (count : Nat) :
    (∀ tree, (reader.request δ count).outcome = .ok tree →
      Completes tree (reader.request δ count).events) ∧
    (∀ error, (reader.request δ count).outcome = .error error →
      Fails (reader.request δ count).events) ∧
    (∀ error,
      (reader.request δ count).events.getLast? = some (.ruleRejected error) ↔
        (reader.request δ count).outcome = .error error) := by
  have hstate : (reader.afterRequests δ count).trace = true := by
    rw [afterRequests_trace, htrace]
  obtain ⟨step, hcourse, hread⟩ :=
    exists_course_of_read (δ := δ) (reader.afterRequests δ count)
  rw [request, hread]
  rcases houtcome : step.outcome with error | tree
  · have hevents : step.events ++ step.rejection = step.events ++ [.ruleRejected error] := by
      rw [Step.rejection, houtcome]
    rw [hevents]
    refine ⟨?_, ?_, ?_⟩
    · intro tree htree
      cases htree
    · intro other hother
      exact hcourse.fails hstate houtcome
    · intro other
      simp
  · have hevents : step.events ++ step.rejection = step.events := by
      rw [Step.rejection, houtcome, List.append_nil]
    rw [hevents]
    obtain ⟨category, hlast⟩ := hcourse.getLast?_of_ok hstate houtcome
    refine ⟨?_, ?_, ?_⟩
    · rintro other ⟨⟩
      exact hcourse.completes hstate houtcome
    · intro error herror
      cases herror
    · intro error
      rw [hlast]
      simp

/-- A first rule with a second one behind it gives its two leaves back; the second one is read. -/
theorem requests_account_for_nodes_two_rules :
    let reader : Reader Queue :=
      ⟨⟨[.piece (.operator .assign), .piece (.coordinate .absolute "1,2"), .piece (.attr "y"),
          .piece (.operator .assign), .piece .nil], 1⟩, .piece (.attr "x"), 0, true⟩
    let tree : Tree Unit := Tree.ofParts "y" .assign .nil
    reader.trace = true ∧
      (reader.request Unit 0).outcome = .error (.trailing "attribute 'y'" 3) ∧
      Fails (reader.request Unit 0).events ∧
      (reader.request Unit 0).events.getLast? =
        some (.ruleRejected (.trailing "attribute 'y'" 3)) ∧
      (reader.request Unit 1).outcome = .ok tree ∧
      Completes tree (reader.request Unit 1).events := by
  intro reader tree
  have hfailure :
      (reader.request Unit 0).outcome = .error (.trailing "attribute 'y'" 3) := rfl
  have hsuccess : (reader.request Unit 1).outcome = .ok tree := rfl
  obtain ⟨-, hfails, hlast⟩ := requests_account_for_nodes (δ := Unit) reader rfl 0
  obtain ⟨hcompletes, -, -⟩ := requests_account_for_nodes (δ := Unit) reader rfl 1
  exact ⟨rfl, hfailure, hfails _ hfailure, (hlast _).mpr hfailure, hsuccess,
    hcompletes _ hsuccess⟩

end Reader
end LayoutRules
