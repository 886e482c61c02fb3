import LayoutRules.Command.Check
import LayoutRules.Proofs.Literal.Amount
import LayoutRules.Proofs.Rule.Phrase
import LayoutRules.Proofs.Tree.Built

/-!
# Canonical texts

The canonical text of a tree is read as an equal tree exactly when the tree is
legal: it is a whole rule, its name is one that a text can have, and its value
is one that its own text denotes. What is read again is then the very tree,
down to the bits of its number, and only its slots are empty. Every tree that
is read from a text is legal, so a checked rule is checked again unchanged.
-/

namespace LayoutRules

namespace Binary64

theorem isNaN_eq_false_of_isFinite
    {x : Binary64}
    (h : x.isFinite = true) :
    x.isNaN = false :=
  decide_eq_false (Nat.lt_asymm (of_decide_eq_true h))

/-- A finite number is equal to itself, unlike a NaN. -/
theorem same_self_of_isFinite
    {x : Binary64}
    (h : x.isFinite = true) :
    x.same x = true := by
  simp [same, isNaN_eq_false_of_isFinite h]

/-- Only finite numbers are equal to a finite one. -/
theorem isFinite_of_same
    {x y : Binary64}
    (hsame : x.same y = true)
    (h : x.isFinite = true) :
    y.isFinite = true := by
  simp only [same, Bool.and_eq_true, Bool.or_eq_true, decide_eq_true_eq, beq_iff_eq] at hsame
  rcases hsame.2 with rfl | ⟨-, hzero⟩
  · exact h
  · rw [isFinite, hzero]
    decide

end Binary64

namespace Content

/-- The values that their own text denotes. -/
inductive Legal : Content → Prop
  | nil : Legal .nil
  | amount
      {basis : Basis} {value : Binary64}
      (hfinite : value.isFinite = true) :
      Legal (.amount basis value)
  | coordinate
      {basis : Basis} {text : String} {first second : List Char} {a b : Component}
      (hfirst : Component.Spelling first a)
      (hsecond : Component.Spelling second b)
      (htext : text.toList = first ++ ',' :: second)
      (hopens : Literal.Opens text.toList)
      (hjoint : Basis.Joint a.basis b.basis basis) :
      Legal (.coordinate basis text)

/-- What a text denotes is legal, whether or not the text is the canonical one. -/
theorem legal_of_spelling
    {text : List Char} {content : Content}
    (h : Value.Spelling text content) :
    content.Legal := by
  cases h with
  | absent => exact .nil
  | amount hopens hcomponent hdenotes => exact .amount hdenotes.finite
  | coordinate hopens hfirst hsecond hjoint =>
      refine .coordinate hfirst hsecond String.toList_ofList ?_ hjoint
      rwa [String.toList_ofList]

/-- A legal value is what its own text denotes. -/
theorem Legal.spelling
    {content : Content}
    (h : content.Legal) :
    Value.Spelling content.characters content := by
  cases h with
  | nil => exact .absent
  | @amount basis value hfinite =>
      obtain ⟨numeral, hnumeral, hdenotes⟩ := numeral_of_isFinite hfinite
      exact .amount (opens_number hfinite basis.mark)
        (.marked hnumeral basis.mark_spells) hdenotes
  | coordinate hfirst hsecond htext hopens hjoint =>
      rw [htext] at hopens
      have hspelling := Value.Spelling.coordinate hopens hfirst hsecond hjoint
      rw [← htext, String.ofList_toList] at hspelling
      exact hspelling

theorem Legal.same_self
    {content : Content}
    (h : content.Legal) :
    content.same content = true := by
  cases h with
  | nil => rfl
  | amount hfinite => simp [same, Binary64.same_self_of_isFinite hfinite]
  | coordinate => simp [same]

/-- What is equal to a legal value is legal. -/
theorem Legal.of_same
    {first second : Content}
    (h : first.Legal)
    (hsame : first.same second = true) :
    second.Legal := by
  cases h with
  | nil =>
      cases second with
      | nil => exact .nil
      | _ => cases hsame
  | amount hfinite =>
      cases second with
      | amount basis value =>
          simp only [same, Bool.and_eq_true] at hsame
          exact .amount (Binary64.isFinite_of_same hsame.2 hfinite)
      | _ => cases hsame
  | coordinate hfirst hsecond htext hopens hjoint =>
      cases second with
      | coordinate basis text =>
          simp only [same, Bool.and_eq_true, beq_iff_eq] at hsame
          obtain ⟨rfl, rfl⟩ := hsame
          exact .coordinate hfirst hsecond htext hopens hjoint
      | _ => cases hsame

theorem Legal.isValue
    {content : Content}
    (h : content.Legal) :
    content.category.isValue = true := by
  cases h <;> rfl

end Content

namespace Tree

variable {δ : Type}

/-- A copy has the same text. -/
@[simp] theorem text_copy
    (tree : Tree δ) :
    tree.copy.text = tree.text := by
  have hcharacters : tree.copy.characters = tree.characters := by
    induction tree with
    | leaf content slot => rfl
    | branch content left right slot ihLeft ihRight =>
        simp only [copy, characters, ihLeft, ihRight]
  rw [text, text, hcharacters]

/-- The trees of rules whose names and values can stand in a text. -/
inductive Legal : Tree δ → Prop
  | rule
      {name : String} {op : Operator} {value : Content} {leftSlot rightSlot slot : Option δ}
      (hname : Scanner.IsName name.toList)
      (hne : name ≠ "nil")
      (hvalue : value.Legal) :
      Legal
        (.branch (.operator op) (.leaf (.attr name) leftSlot) (.leaf value rightSlot) slot)

theorem legal_iff
    {name : String} {op : Operator} {value : Content} {leftSlot rightSlot slot : Option δ} :
    Legal
        (.branch (.operator op) (.leaf (.attr name) leftSlot) (.leaf value rightSlot) slot) ↔
      Scanner.IsName name.toList ∧ name ≠ "nil" ∧ value.Legal := by
  constructor
  · rintro ⟨hname, hne, hvalue⟩
    exact ⟨hname, hne, hvalue⟩
  · rintro ⟨hname, hne, hvalue⟩
    exact .rule hname hne hvalue

theorem Legal.shaped
    {tree : Tree δ}
    (h : tree.Legal) :
    tree.Shaped := by
  cases h with
  | rule hname hne hvalue => exact .rule hvalue.isValue

/-- The phrase of a canonical text has single spaces around its operator. -/
def phrase (name : String) (op : Operator) (value : Content) : Phrase :=
  ⟨[], name.toList, [' '], op, [' '], value.characters, []⟩

theorem isRule_phrase
    {name : String} {value : Content}
    (op : Operator)
    (hname : Scanner.IsName name.toList)
    (hne : name ≠ "nil")
    (hvalue : value.Legal) :
    (phrase name op value).IsRule value := by
  have hspace : Text.Within Text.isBlank [' '] :=
    Text.within_cons.mpr ⟨by decide, Text.within_nil⟩
  refine ⟨Text.within_nil, hname, ?_, hspace, hspace, hvalue.spelling, Text.within_nil⟩
  intro hnil
  exact hne (String.toList_injective hnil)

/-- The canonical text of a legal tree is read as a copy of the tree. -/
theorem Legal.parse_text
    {tree : Tree δ}
    (h : tree.Legal) :
    (parse tree.text : Except RuleError (Tree δ)) = .ok tree.copy := by
  cases h with
  | @rule name op value leftSlot rightSlot slot hname hne hvalue =>
      refine Rule.parse_eq_ok_iff.mpr
        ⟨phrase name op value, value, isRule_phrase op hname hne hvalue, ?_, ?_⟩
      · simp [phrase, Phrase.characters, Phrase.behindName, Phrase.behindOperator, text,
          characters]
      · simp [phrase, ofParts, copy]

/-- Every tree that is read from a text is legal. -/
theorem legal_of_parse
    {rule : String} {tree : Tree δ}
    (h : parse rule = .ok tree) :
    tree.Legal := by
  obtain ⟨phrase, value, hrule, -, rfl⟩ := Rule.parse_eq_ok_iff.mp h
  refine .rule ?_ ?_ (Content.legal_of_spelling hrule.value)
  · rw [String.toList_ofList]
    exact hrule.isName
  · intro hnil
    exact hrule.ne_nil (by rw [← String.toList_ofList (l := phrase.name), hnil]; rfl)

theorem Legal.same_copy
    {tree : Tree δ}
    (h : tree.Legal) :
    tree.copy.same tree = true := by
  cases h with
  | @rule name op value leftSlot rightSlot slot hname hne hvalue =>
      have hop : (Content.operator op).same (.operator op) = true := by simp [Content.same]
      have hattr : (Content.attr name).same (.attr name) = true := by simp [Content.same]
      simp only [copy, same, hop, hattr, hvalue.same_self, Bool.and_self]

/-- What is equal to a legal tree is legal. -/
theorem Legal.of_same
    {first second : Tree δ}
    (h : first.Legal)
    (hsame : first.same second = true) :
    second.Legal := by
  cases h with
  | rule hname hne hvalue =>
      match second, hsame with
      | .branch root (.leaf left leftSlot) (.leaf right rightSlot) slot, hsame =>
          simp only [same, Bool.and_eq_true] at hsame
          obtain ⟨⟨hroot, hleft⟩, hright⟩ := hsame
          have hlegal := hvalue.of_same hright
          cases root with
          | operator op =>
              cases left with
              | attr name =>
                  simp only [Content.same, beq_iff_eq] at hleft
                  exact .rule (hleft ▸ hname) (hleft ▸ hne) hlegal
              | _ => cases hleft
          | _ => cases hroot
      | .branch _ (.leaf _ _) (.branch _ _ _ _) _, hsame => simp [same] at hsame
      | .branch _ (.branch _ _ _ _) _ _, hsame => simp [same] at hsame

/-- The canonical text of a legal tree has no blanks around it. -/
theorem Legal.trimmed_text
    {tree : Tree δ}
    (h : tree.Legal) :
    Command.trimmed tree.text = tree.text := by
  have htrim : Text.trim tree.characters = tree.characters := by
    cases h with
    | @rule name op value leftSlot rightSlot slot hname hne hvalue =>
        obtain ⟨hsome, hsolid⟩ := hvalue.spelling.solid
        have hlexeme := (isRule_phrase op hname hne hvalue).nameLexeme
        have hback :=
          Text.stops_reverse_append (p := Text.isBlank)
            (name.toList ++ ' ' :: (op.characters ++ [' '])) hsome
            fun c hc => by simpa [Scanner.isSolid] using hsolid c hc
        refine Text.trim_eq_self (hlexeme.stops_isBlank _) ?_
        simpa [characters] using hback
  rw [Command.trimmed, text, String.toList_ofList, htrim]

end Tree

namespace Command

/-- A check whose answer is a canonical text has read a tree with that text. -/
theorem Check.exists_tree_of_canonical
    {check : Check} {text : String}
    (h : check.run.1 = .ok (.canonical text)) :
    check.json = false ∧
      ∃ rule : String, ∃ tree : Tree Unit,
        Tree.parse rule = .ok tree ∧ tree.text = text := by
  unfold run at h
  split at h
  case h_1 =>
    cases h
  case h_2 rule hrule =>
    split at h
    case h_1 =>
      cases h
    case h_2 tree events hread =>
      have hparse := (Rule.ofText_eq_ok_iff.mp (congrArg Prod.fst hread)).2
      have hreport : check.report tree = .canonical text := Except.ok.inj h
      unfold report at hreport
      split at hreport
      case isTrue =>
        cases hreport
      case isFalse hjson =>
        exact ⟨by simpa using hjson, _, tree, hparse, Report.canonical.inj hreport⟩

/-- A check of a canonical text answers with that text. -/
theorem Check.run_canonical
    {check : Check} {tree : Tree Unit}
    (hlegal : tree.Legal)
    (hjson : check.json = false)
    (hrule : check.rule = some tree.text)
    (hlength : check.settings.lengthError? tree.text = none) :
    check.run.1 = .ok (.canonical tree.text) := by
  have hread :
      (Tree.ofText check.settings (trimmed tree.text)).1 = .ok tree.copy := by
    rw [hlegal.trimmed_text]
    exact Rule.ofText_eq_ok_iff.mpr ⟨hlength, hlegal.parse_text⟩
  rcases hstep : Tree.ofText check.settings (trimmed tree.text) with ⟨outcome, events⟩
  rw [hstep] at hread
  cases hread
  simp only [run, hrule, hstep, report, hjson, Tree.text_copy]
  rfl

end Command

namespace Tree

variable {δ : Type}

/--
The canonical text of a tree is read as an equal tree exactly when the tree is
legal, and then as the same tree in every bit and with the same text. A tree
over an operator that can be built is legal when its name and its value are.
Every tree that is read from a text is legal, so a check of a checked rule
answers with the rule unchanged, as long as it may have the length.
-/
theorem canonical_text_reads_back_iff
    (tree : Tree δ) :
    ((∃ again : Tree δ, parse tree.text = .ok again ∧ again.same tree = true) ↔
      tree.Legal) ∧
    (tree.Legal →
      (parse tree.text : Except RuleError (Tree δ)) = .ok tree.copy ∧
      tree.copy.same tree = true ∧
      tree.copy.text = tree.text) ∧
    (tree.Built → tree.category.isOperator = true →
      ∃ name op value leftSlot rightSlot slot,
        tree =
          .branch (.operator op) (.leaf (.attr name) leftSlot) (.leaf value rightSlot) slot ∧
        (tree.Legal ↔ Scanner.IsName name.toList ∧ name ≠ "nil" ∧ value.Legal)) ∧
    (∀ (rule : String) (parsed : Tree δ),
      parse rule = .ok parsed → parsed.Legal ∧ parsed.Built) ∧
    (∀ (check again : Command.Check) (text : String),
      check.run.1 = .ok (.canonical text) →
      again.rule = some text → again.json = false →
      again.settings.lengthError? text = none →
        again.run.1 = .ok (.canonical text)) := by
  refine ⟨⟨?_, ?_⟩, ?_, ?_, ?_, ?_⟩
  · rintro ⟨again, hread, hsame⟩
    exact (legal_of_parse hread).of_same hsame
  · intro hlegal
    exact ⟨tree.copy, hlegal.parse_text, hlegal.same_copy⟩
  · intro hlegal
    exact ⟨hlegal.parse_text, hlegal.same_copy, tree.text_copy⟩
  · intro hbuilt hoperator
    obtain ⟨name, op, value, leftSlot, rightSlot, slot, -, rfl⟩ :=
      hbuilt.shaped.eq_branch hoperator
    exact ⟨name, op, value, leftSlot, rightSlot, slot, rfl, legal_iff⟩
  · intro rule parsed hread
    exact ⟨legal_of_parse hread, (legal_of_parse hread).shaped.built⟩
  · intro check again text hrun hrule hjson hlength
    obtain ⟨-, rule, checked, hread, rfl⟩ := Command.Check.exists_tree_of_canonical hrun
    exact Command.Check.run_canonical (legal_of_parse hread) hjson hrule hlength

/-- A zero keeps its sign through its text, and a pair is read on the basis of both components. -/
theorem canonical_text_reads_back_iff_zero_and_pairs :
    let zero : Tree Unit := ofParts "x" .divide (.amount .width ⟨true, 0, by decide⟩)
    let pair (basis : Basis) : Tree Unit := ofParts "x" .assign (.coordinate basis "10,20%w")
    let mixed : Tree Unit := ofParts "x" .add (.coordinate .own "10%w,20%h")
    zero.Built ∧ zero.Legal ∧ zero.text = "x /= -0%w" ∧
      (parse "x /= -0%w" : Except RuleError (Tree Unit)) = .ok zero ∧
      (pair .width).Legal ∧
      (parse "x = 10,20%w" : Except RuleError (Tree Unit)) = .ok (pair .width) ∧
      mixed.Legal ∧
      (parse "x += 10%w,20%h" : Except RuleError (Tree Unit)) = .ok mixed ∧
      (pair .absolute).Built ∧
      ¬ ∃ again, parse (pair .absolute).text = .ok again ∧ again.same (pair .absolute) = true := by
  intro zero pair mixed
  have hname : Scanner.IsName "x".toList := ⟨'x', [], rfl, by decide, Text.within_nil⟩
  have hten : Numeral.Spelling ['1', '0'] ⟨false, ['1', '0'], []⟩ :=
    .whole .absent (by decide) (by decide)
  have htwenty : Numeral.Spelling ['2', '0'] ⟨false, ['2', '0'], []⟩ :=
    .whole .absent (by decide) (by decide)
  have hopens (rest : List Char) : Literal.Opens ('1' :: rest) :=
    Literal.opens_of_isDigit rest (by decide)
  have hzero : zero.Legal := .rule hname (by decide) (.amount (by decide))
  have hpair : (pair .width).Legal := by
    refine .rule hname (by decide)
      (.coordinate (.marked hten .bare) (.marked htwenty .width) rfl (hopens _) ?_)
    constructor <;> simp [Basis.Prevails]
  have hmixed : mixed.Legal := by
    refine .rule hname (by decide)
      (.coordinate (.marked hten .width) (.marked htwenty .height) rfl (hopens _) ?_)
    constructor <;> simp [Basis.Prevails]
  have hreadZero := ((canonical_text_reads_back_iff zero).2.1 hzero).1
  have hreadPair := ((canonical_text_reads_back_iff (pair .width)).2.1 hpair).1
  have hreadMixed := ((canonical_text_reads_back_iff mixed).2.1 hmixed).1
  have hzeroText : zero.text = "x /= -0%w" := by decide +kernel
  rw [hzeroText] at hreadZero
  refine ⟨hzero.shaped.built, hzero, hzeroText, hreadZero, hpair, hreadPair, hmixed, hreadMixed,
    (Shaped.rule rfl).built, ?_⟩
  -- Both pairs have one text, and it is read as the other one.
  rintro ⟨again, hread, hsame⟩
  obtain rfl : (pair .width).copy = again := Except.ok.inj (hreadPair.symm.trans hread)
  exact absurd hsame (by decide)

end Tree

end LayoutRules
