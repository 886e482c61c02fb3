import LayoutRules.Proofs.Rule.Tracing
import LayoutRules.Proofs.Tree.Built

/-!
# No node is refused while a rule is read

A token is looked at before it is given up, and it becomes a leaf only if it is
an attribute or a value. The root is an operator over such leaves. So of the
failures of a reading none comes from the making of a node. What the makers of
nodes do where they fail is of no consequence: a reading that asks makers
without any checks comes to the same.
-/

namespace LayoutRules

/-- Errors about what the source delivers, and not about the making of a node. -/
def RuleError.IsOutward : RuleError → Prop
  | .shape _ => False
  | .unexpected .literal _ _ => False
  | _ => True

theorem RuleError.isOutward_ofSource
    (error : SourceError) :
    (RuleError.ofSource error).IsOutward := by
  cases error <;> trivial

/-- No node was refused on the way to an outcome, and no token failed to become a leaf. -/
structure Untroubled
    {α : Type}
    (outcome : Except RuleError α)
    (events : List Event) :
    Prop where
  shape : ∀ error, outcome ≠ .error (.shape error)
  literal : ∀ found position, outcome ≠ .error (.unexpected .literal found position)
  nodes : ∀ refusal, .nodeRejected refusal ∉ events

theorem untroubled_of_isOutward
    {α : Type} {outcome : Except RuleError α} {events : List Event}
    (herror : ∀ error, outcome = .error error → error.IsOutward)
    (hnodes : ∀ refusal, .nodeRejected refusal ∉ events) :
    Untroubled outcome events where
  shape _ h := herror _ h
  literal _ _ h := herror _ h
  nodes := hnodes

namespace Reader

variable {σ δ : Type}

theorem mem_of_mem_traced
    {reader : Reader σ} {event : Event} {events : List Event}
    (h : event ∈ reader.traced events) :
    event ∈ events := by
  unfold traced at h
  split at h
  · exact h
  · cases h

variable [Source σ]

theorem Course.isOutward
    {reader : Reader σ} {step : Step σ (Tree δ)} {error : RuleError}
    (h : reader.Course step)
    (herror : step.outcome = .error error) :
    error.IsOutward := by
  cases h with
  | attributeLost | operatorLost | valueLost =>
      cases herror
      exact RuleError.isOutward_ofSource _
  | rule => cases herror
  | _ =>
      cases herror
      trivial

theorem Course.nodeRejected_notMem
    {reader : Reader σ} {step : Step σ (Tree δ)}
    (h : reader.Course step)
    (refusal : Refusal) :
    .nodeRejected refusal ∉ step.events := by
  intro hmem
  cases h with
  | empty | noAttribute | attributeLost => cases hmem
  | _ => simpa [shifting] using mem_of_mem_traced hmem

/-- A request from any reader whatsoever is untroubled. -/
theorem untroubled_read
    (reader : Reader σ) :
    Untroubled
      (reader.read : Step σ (Tree δ)).outcome
      (reader.read : Step σ (Tree δ)).events := by
  obtain ⟨step, hcourse, hread⟩ := exists_course_of_read (δ := δ) reader
  rw [hread]
  refine untroubled_of_isOutward (fun _ herror => hcourse.isOutward herror) ?_
  intro refusal hmem
  rcases List.mem_append.mp hmem with hmem | hmem
  · exact hcourse.nodeRejected_notMem refusal hmem
  · unfold Step.rejection at hmem
    split at hmem
    · cases hmem
    · cases List.mem_singleton.mp hmem

end Reader

namespace Tree

variable {σ δ : Type}

theorem untroubled_ofSource
    [Source σ]
    (trace : Bool)
    (source : σ) :
    Untroubled
      (ofSource trace source : Except RuleError (Tree δ) × List Event).1
      (ofSource trace source : Except RuleError (Tree δ) × List Event).2 := by
  rcases hnext : Source.next source with ⟨error | first, rest⟩
  · simp only [ofSource, Reader.start, hnext]
    refine untroubled_of_isOutward ?_ fun _ => List.not_mem_nil
    rintro _ ⟨⟩
    exact RuleError.isOutward_ofSource error
  · simp only [ofSource, Reader.start, hnext]
    exact Reader.untroubled_read ⟨rest, first, 0, trace⟩

theorem nodeRejected_notMem_announce
    {refusal : Refusal} {events : List Event}
    (rule : String)
    (h : .nodeRejected refusal ∉ events) :
    .nodeRejected refusal ∉ announce rule events := by
  simpa [announce] using h

/-- The reading of a text is untroubled too; one that is too long is refused before it begins. -/
theorem untroubled_ofText
    (settings : Settings)
    (rule : String) :
    Untroubled
      (ofText settings rule : Except RuleError (Tree δ) × List Event).1
      (ofText settings rule : Except RuleError (Tree δ) × List Event).2 := by
  cases herror : settings.lengthError? rule with
  | some error =>
      rw [Rule.ofText_of_lengthError herror]
      obtain ⟨limit, -, -, rfl⟩ := Settings.lengthError?_eq_some_iff.mp herror
      refine untroubled_of_isOutward ?_ fun _ => List.not_mem_nil
      rintro _ ⟨⟩
      trivial
  | none =>
      have hsource :=
        untroubled_ofSource (δ := δ) settings.trace (Scanner.ofString rule)
      rw [Rule.ofText_events herror]
      have houtcome :
          (ofText settings rule : Except RuleError (Tree δ) × List Event).1 =
            (ofSource settings.trace (Scanner.ofString rule) :
              Except RuleError (Tree δ) × List Event).1 := by
        rw [ofText, herror]
      rw [houtcome]
      refine ⟨hsource.shape, hsource.literal, fun refusal => ?_⟩
      have hnodes := hsource.nodes refusal
      dsimp only
      split
      · exact nodeRejected_notMem_announce rule hnodes
      · exact hnodes

end Tree

namespace Reading

variable {σ α β δ : Type}

/-- A reading comes to what another one comes to wherever that one does not fail. -/
def Extends (reading other : Reading σ α) : Prop :=
  ∀ reader a after events,
    other reader = ⟨.ok a, after, events⟩ → reading reader = ⟨.ok a, after, events⟩

/-- What makes leaves of tokens that were given up, and nodes of contents and operands. -/
structure Makers (σ δ : Type) where
  leaf : Token → Reading σ (Tree δ)
  node : Content → Option (Tree δ) → Option (Tree δ) → Reading σ (Tree δ)

namespace Makers

/-- The makers that check what they are given. -/
def checked : Makers σ δ :=
  ⟨reduce, Reading.node⟩

/-- Makers that make what the checked ones make, and do anything where these fail. -/
structure Agree (makers : Makers σ δ) : Prop where
  leaf : ∀ token, (makers.leaf token).Extends (reduce token)
  node :
    ∀ content left right,
      (makers.node content left right).Extends (Reading.node content left right)

variable [Source σ]

/-- The attribute at the start of a rule, made by the given makers. -/
def attr (makers : Makers σ δ) : Reading σ (Tree δ) := do
  let token ← current
  if token.isAttribute then
    let token ← shift
    makers.leaf token
  else
    unexpected .attr

/-- The value at the end of a rule, made by the given makers. -/
def value (makers : Makers σ δ) : Reading σ (Tree δ) := do
  let token ← current
  if token.isValue then
    let token ← shift
    makers.leaf token
  else
    unexpected .value

/-- A rule whose leaves and operator are there, made by the given makers. -/
def whole
    (makers : Makers σ δ)
    (left : Tree δ)
    (op : Operator)
    (right : Tree δ) :
    Reading σ (Tree δ) := do
  orAbandon finish [left, right]
  let root ← makers.node (.operator op) (some left) (some right)
  note (.accepted root.category)
  pure root

/-- A whole rule and the end behind it, made by the given makers. -/
def rule (makers : Makers σ δ) : Reading σ (Tree δ) := do
  let token ← current
  if token = .finish then
    fail .empty
  else
    let left ← makers.attr
    let op ← orAbandon operator [left]
    let right ← orAbandon makers.value [left]
    makers.whole left op right

/-- A rule is read with makers that check. -/
theorem rule_checked :
    (checked : Makers σ δ).rule = Reading.rule :=
  rfl

end Makers

/-- Readings agree behind one that they share if they do so wherever it does not fail. -/
theorem bind_congr_of_ok
    {first : Reading σ α} {second other : α → Reading σ β} {reader : Reader σ}
    (h : ∀ a after events,
      first reader = ⟨.ok a, after, events⟩ → second a after = other a after) :
    (first >>= second) reader = (first >>= other) reader := by
  rcases hfirst : first reader with ⟨error | a, after, events⟩
  · rw [bind_of_error hfirst, bind_of_error hfirst]
  · rw [bind_of_ok hfirst, bind_of_ok hfirst, h a after events hfirst]

theorem eq_of_orAbandon_ok
    {reading : Reading σ α} {built : List (Tree δ)} {reader after : Reader σ}
    {a : α} {events : List Event}
    (h : orAbandon reading built reader = ⟨.ok a, after, events⟩) :
    reading reader = ⟨.ok a, after, events⟩ := by
  rcases hreading : reading reader with ⟨error | a', after', events'⟩
  · rw [orAbandon_of_error hreading] at h
    cases h
  · rwa [orAbandon_of_ok hreading] at h

section Leaves

variable [Source σ] {reader after : Reader σ} {tree : Tree δ} {events : List Event}

/-- What a rule begins with is an attribute. -/
theorem category_of_attr
    (h : attr reader = ⟨.ok tree, after, events⟩) :
    tree.category = .attr := by
  cases hattr : reader.current.isAttribute with
  | false =>
      rw [attr_of_missing hattr] at h
      cases h
  | true =>
      obtain ⟨name, hattr⟩ := Token.isAttribute_iff.mp hattr
      rcases Reader.shifts_or_loses reader with ⟨next, hshifts⟩ | ⟨error, next, hloses⟩
      · rw [attr_of_shifts hattr hshifts] at h
        cases h
        rfl
      · rw [attr_of_loses hattr hloses] at h
        cases h

/-- What a rule ends with is a value. -/
theorem isValue_of_value
    (h : value reader = ⟨.ok tree, after, events⟩) :
    tree.category.isValue = true := by
  cases hvalue : reader.current.isValue with
  | false =>
      rw [value_of_missing hvalue] at h
      cases h
  | true =>
      obtain ⟨content, hvalue, hisValue⟩ := Token.isValue_iff.mp hvalue
      rcases Reader.shifts_or_loses reader with ⟨next, hshifts⟩ | ⟨error, next, hloses⟩
      · rw [value_of_shifts hvalue hisValue hshifts] at h
        cases h
        exact hisValue
      · rw [value_of_loses hvalue hisValue hloses] at h
        cases h

end Leaves

namespace Makers

variable {makers : Makers σ δ}

/-- A piece that is no operator becomes a leaf, whatever the makers do with other tokens. -/
theorem Agree.leaf_piece
    {content : Content}
    (h : makers.Agree)
    (reader : Reader σ)
    (hcontent : content.category.isOperator = false) :
    makers.leaf (.piece content) reader = reduce (.piece content) reader := by
  have hreduce := reduce_piece (δ := δ) reader hcontent
  rw [hreduce]
  exact h.leaf _ _ _ _ _ hreduce

/-- Over an attribute and a value the root is made. -/
theorem Agree.whole_eq
    {left right : Tree δ}
    (h : makers.Agree)
    (op : Operator)
    (hleft : left.category = .attr)
    (hright : right.category.isValue = true)
    (reader : Reader σ) :
    makers.whole left op right reader = Reading.whole left op right reader := by
  refine bind_congr_of_ok ?_
  intro finished after events hfinish
  have hnode :
      Reading.node (.operator op) (some left) (some right) after =
        ⟨.ok (.branch (.operator op) left right none), after, []⟩ := by
    rw [Reading.node, Tree.create_rule op hleft hright]
  rw [bind_of_ok (h.node _ _ _ _ _ _ _ hnode), bind_of_ok hnode]

variable [Source σ]

/-- The token that is given up is the one that was looked at. -/
theorem Agree.shift_leaf
    {reader : Reader σ} {content : Content}
    (h : makers.Agree)
    (hcurrent : reader.current = .piece content)
    (hcontent : content.category.isOperator = false) :
    (shift >>= makers.leaf) reader = (shift >>= reduce) reader := by
  refine bind_congr_of_ok ?_
  intro token after events hshift
  rcases Reader.shifts_or_loses reader with ⟨next, hshifts⟩ | ⟨error, next, hloses⟩
  · rw [shift_of_shifts hshifts, hcurrent] at hshift
    cases hshift
    exact h.leaf_piece _ hcontent
  · rw [shift_of_loses hloses] at hshift
    cases hshift

theorem Agree.attr_eq
    (h : makers.Agree) :
    makers.attr = Reading.attr := by
  funext reader
  refine (current_bind _ reader).trans (Eq.trans ?_ (current_bind _ reader).symm)
  cases hattr : reader.current.isAttribute with
  | false => rfl
  | true =>
      obtain ⟨name, hcurrent⟩ := Token.isAttribute_iff.mp hattr
      exact h.shift_leaf hcurrent rfl

theorem Agree.value_eq
    (h : makers.Agree) :
    makers.value = Reading.value := by
  funext reader
  refine (current_bind _ reader).trans (Eq.trans ?_ (current_bind _ reader).symm)
  cases hvalue : reader.current.isValue with
  | false => rfl
  | true =>
      obtain ⟨content, hcurrent, hisValue⟩ := Token.isValue_iff.mp hvalue
      exact h.shift_leaf hcurrent (Category.isOperator_eq_false_of_isValue hisValue)

/-- A rule is read alike by all makers that agree where none has to fail. -/
theorem Agree.rule_eq
    (h : makers.Agree) :
    makers.rule = Reading.rule := by
  funext reader
  refine (current_bind _ reader).trans (Eq.trans ?_ (current_bind _ reader).symm)
  by_cases hfinish : reader.current = .finish
  · rw [if_pos hfinish, if_pos hfinish]
  · rw [if_neg hfinish, if_neg hfinish, h.attr_eq, h.value_eq]
    refine bind_congr_of_ok fun left _ _ hleft => ?_
    refine bind_congr_of_ok fun op _ _ _ => ?_
    refine bind_congr_of_ok fun right after _ hright => ?_
    exact h.whole_eq op (category_of_attr hleft) (isValue_of_value (eq_of_orAbandon_ok hright))
      after

end Makers

theorem create_of_node
    {content : Content} {left right : Option (Tree δ)} {tree : Tree δ}
    {reader after : Reader σ} {events : List Event}
    (h : node content left right reader = ⟨.ok tree, after, events⟩) :
    Tree.create content left right = .ok tree ∧ after = reader ∧ events = [] := by
  unfold node at h
  split at h
  case h_1 hcreate =>
    cases h
    exact ⟨hcreate, rfl, rfl⟩
  case h_2 => cases h

/-- Only a piece that is no operator becomes a leaf. -/
theorem exists_piece_of_reduce
    {token : Token} {tree : Tree δ} {reader after : Reader σ} {events : List Event}
    (h : reduce token reader = ⟨.ok tree, after, events⟩) :
    ∃ content, token = .piece content ∧ content.category.isOperator = false := by
  cases token with
  | finish => cases h
  | piece content =>
      rcases hnode : node content (none : Option (Tree δ)) none reader with
        ⟨error | leaf, next, shown⟩
      · have hreduce : (reduce (.piece content) : Reading σ (Tree δ)) reader = _ :=
          bind_of_error hnode
        rw [hreduce] at h
        cases h
      · rcases Tree.cases_of_create (create_of_node hnode).1 with
          ⟨hcontent, -⟩ | ⟨first, second, -, hnone, -⟩
        · exact ⟨content, rfl, hcontent⟩
        · cases hnone

namespace Makers

/-- Makers without checks: every token makes a leaf, and any two operands are put into a node. -/
def unchecked : Makers σ δ where
  leaf
    | .piece content => fun reader =>
        ⟨.ok (.leaf content none), reader, reader.traced [.reduced content.category]⟩
    | .finish => fun reader => ⟨.ok (.leaf .nil none), reader, []⟩
  node content
    | some left, some right => fun reader =>
        ⟨.ok (.branch content left right none), reader, []⟩
    | _, _ => fun reader => ⟨.ok (.leaf content none), reader, []⟩

theorem agree_unchecked :
    (unchecked : Makers σ δ).Agree where
  leaf token reader tree after events h := by
    obtain ⟨content, rfl, hcontent⟩ := exists_piece_of_reduce h
    rw [reduce_piece reader hcontent] at h
    exact h
  node content left right reader tree after events h := by
    obtain ⟨hcreate, rfl, rfl⟩ := create_of_node h
    rcases Tree.cases_of_create hcreate with
      ⟨-, rfl, rfl, rfl⟩ | ⟨first, second, -, rfl, rfl, -, -, rfl⟩
    · rfl
    · rfl

end Makers

end Reading

/--
No request to a reader, in whatever state it is and after any number of other
requests, fails for a node that was refused or a token that makes no leaf, and
none shows a refused node; nor does the reading of any text under any settings.
A rule is read with makers of leaves and nodes that check, and these never fail
when they are asked: with others, which do anything at all where these fail, the
same rules are read, and the same is shown.
-/
theorem no_node_is_refused
    (δ : Type) :
    (∀ (σ : Type) [Source σ] (reader : Reader σ) (index : Nat),
      Untroubled (reader.request δ index).outcome (reader.request δ index).events) ∧
    (∀ settings rule,
      Untroubled
        (Tree.ofText settings rule : Except RuleError (Tree δ) × List Event).1
        (Tree.ofText settings rule : Except RuleError (Tree δ) × List Event).2) ∧
    (∀ (σ : Type) [Source σ],
      (Reading.Makers.checked : Reading.Makers σ δ).rule = Reading.rule ∧
      ∀ makers : Reading.Makers σ δ,
        makers.Agree →
        Reading.shown makers.rule = (Reader.read : Reading σ (Tree δ))) := by
  refine ⟨fun σ _ reader index => (reader.afterRequests δ index).untroubled_read,
    Tree.untroubled_ofText, ?_⟩
  intro σ _
  refine ⟨Reading.Makers.rule_checked, ?_⟩
  intro makers h
  rw [h.rule_eq]
  rfl

/-- Behind a NaN a finish comes too early: the rule is refused, and no node is, checked or not. -/
theorem no_node_is_refused_early_finish :
    let amount : Binary64 := ⟨false, Binary64.infinite + 1, by decide⟩
    let queue : Queue :=
      .ofList [.piece (.operator .divide), .piece (.amount .own amount), .finish, .finish]
    let reader : Reader Queue := ⟨queue, .piece (.attr "x"), 0, true⟩
    let makers : Reading.Makers Queue Unit := .unchecked
    makers.Agree ∧
      (makers.leaf .finish reader).outcome ≠ (Reading.reduce .finish reader).outcome ∧
      Reading.shown makers.rule reader = reader.read ∧
      (reader.request Unit 0).outcome = .error (.trailing "end of input" 2) ∧
      (reader.request Unit 1).reader.current = .piece (.amount .own amount) ∧
      Untroubled (reader.request Unit 1).outcome (reader.request Unit 1).events := by
  intro amount queue reader makers
  have hagree : makers.Agree := Reading.Makers.agree_unchecked
  obtain ⟨huntroubled, -, hread⟩ := no_node_is_refused Unit
  refine ⟨hagree, ?_, congrFun ((hread Queue).2 makers hagree) reader, rfl, rfl,
    huntroubled Queue reader 1⟩
  intro h
  cases h

end LayoutRules
