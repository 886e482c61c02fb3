import LayoutRules.Rule.Error

/-!
# What happens while a rule is read

Events in the order in which they occur. Those of a traced reading show every
step; a rejection is always shown.
-/

namespace LayoutRules

/-- Something that happens while a rule is read. -/
inductive Event where
  /-- A traced reading of a text is announced. -/
  | announced (rule : String)
  /-- The announced reading begins. -/
  | entered
  /-- The announced reading ends. -/
  | exited
  /-- A token gives way to the next one. -/
  | shifted (token : Token) (position : Nat)
  /-- A token becomes a leaf. -/
  | reduced (category : Category)
  /-- A rule is complete. -/
  | accepted (category : Category)
  /-- The leaves of an incomplete rule are given back. -/
  | abandoned (released : Released)
  /-- No rule is read. -/
  | ruleRejected (error : RuleError)
  /-- A node is refused. -/
  | nodeRejected (refusal : Refusal)
  /-- The tree of a checked rule is given back. -/
  | treeReleased (released : Released)
deriving DecidableEq, Repr

namespace Event

/-- The event in words. -/
def message : Event → String
  | .announced rule => rule
  | .entered => "enter"
  | .exited => "exit"
  | .shifted token _ => s!"shift {token.describe}"
  | .reduced _ => "reduce"
  | .accepted _ => "accept"
  | .abandoned _ => "abandon partial rule"
  | .ruleRejected error => s!"rule rejected: {error.message}"
  | .nodeRejected refusal => s!"rejected node: {refusal.error.message}"
  | .treeReleased _ => "released rule tree"

end Event

end LayoutRules
