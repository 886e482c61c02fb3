import LayoutRules.Proofs.Rule.Course
import LayoutRules.Proofs.Scanner.Lexeme
import LayoutRules.Proofs.Source.Answers

/-!
# The leftmost misfit decides

A rule has four places: an attribute, an operator, a value and the finish. A
source answers a request for each of them, and the rule is read if and only if
every answer fits its place. Otherwise the first answer that does not fit
decides the error, and no later answer has a part in it.
-/

namespace LayoutRules

/-- Whether a token may stand at one of a rule's four places. -/
def Token.fits (token : Token) : Nat → Bool
  | 0 => token.isAttribute
  | 1 => token.isOperator
  | 2 => token.isValue
  | _ => token = .finish

theorem Token.fits_value
    {value : Content}
    (h : value.category.isValue = true) :
    (Token.piece value).fits 2 = true :=
  (isValue_piece value).trans h

namespace Reader

variable {σ : Type} [Source σ]

/-- The reader has the source's answer to a request as its token. -/
structure Holds
    (source : σ)
    (index : Nat)
    (reader : Reader σ) :
    Prop where
  token : Source.answer source index = .ok reader.current
  rest : reader.source = Source.after source (index + 1)
  position : reader.position = index

theorem Holds.shifts
    {source : σ} {index : Nat} {reader after : Reader σ}
    (hholds : Holds source index reader)
    (hshifts : reader.Shifts after) :
    Holds source (index + 1) after := by
  obtain ⟨rest, token, hnext, rfl⟩ := hshifts
  rw [hholds.rest, Source.next_after] at hnext
  obtain ⟨htoken, hrest⟩ := Prod.mk.inj hnext
  refine ⟨htoken, hrest.symm, ?_⟩
  rw [hholds.position]

theorem Holds.loses
    {source : σ} {index : Nat} {reader after : Reader σ} {error : SourceError}
    (hholds : Holds source index reader)
    (hloses : reader.Loses error after) :
    Source.answer source (index + 1) = .error error := by
  obtain ⟨rest, hnext, -⟩ := hloses
  rw [hholds.rest, Source.next_after] at hnext
  exact (Prod.mk.inj hnext).1

end Reader

namespace Rule

/-- The answer is a token that may stand at the place. -/
def Fits (place : Nat) (answer : Except SourceError Token) : Prop :=
  ∃ token, answer = .ok token ∧ token.fits place = true

/-- The error of a token at a place that it does not fit. -/
def misfit (token : Token) : Nat → RuleError
  | 0 => if token = .finish then .empty else .unexpected .attr token.label 0
  | 1 => .unexpected .operator token.label 1
  | 2 => .unexpected .value token.label 2
  | place => .trailing token.label place

/-- The error of a token says what was found where, or that there was nothing. -/
theorem misfit_cases
    (token : Token)
    (place : Nat) :
    misfit token place = .empty ∨
      (∃ expected, misfit token place = .unexpected expected token.label place) ∨
      misfit token place = .trailing token.label place := by
  match place with
  | 0 =>
      by_cases hfinish : token = .finish
      · exact Or.inl (if_pos hfinish)
      · exact Or.inr (Or.inl ⟨.attr, if_neg hfinish⟩)
  | 1 => exact Or.inr (Or.inl ⟨.operator, rfl⟩)
  | 2 => exact Or.inr (Or.inl ⟨.value, rfl⟩)
  | place + 3 => exact Or.inr (Or.inr rfl)

theorem misfit_ne_lexical
    (token : Token)
    (place : Nat)
    (error : SourceError) :
    misfit token place ≠ .lexical error := by
  rcases misfit_cases token place with h | ⟨expected, h⟩ | h
  all_goals
    rw [h]
    exact RuleError.noConfusion

/-- The error of an answer at a place that it does not fit. -/
def fault (place : Nat) : Except SourceError Token → RuleError
  | .error error => .ofSource error
  | .ok token => misfit token place

theorem not_fits_error
    (place : Nat)
    (error : SourceError) :
    ¬ Fits place (.error error) := by
  rintro ⟨token, htoken, -⟩
  cases htoken

theorem fits_ok_iff
    {place : Nat} {token : Token} :
    Fits place (.ok token) ↔ token.fits place = true := by
  constructor
  · rintro ⟨other, hother, hfits⟩
    cases hother
    exact hfits
  · intro hfits
    exact ⟨token, rfl, hfits⟩

variable {σ δ : Type} [Source σ]

/-- The source's answers fit the first few places. -/
def FitsBelow (source : σ) (count : Nat) : Prop :=
  ∀ place < count, Fits place (Source.answer source place)

theorem FitsBelow.zero
    (source : σ) :
    FitsBelow source 0 := by
  intro place hplace
  exact absurd hplace (Nat.not_lt_zero place)

theorem FitsBelow.succ
    {source : σ} {count : Nat} {token : Token}
    (hbelow : FitsBelow source count)
    (htoken : Source.answer source count = .ok token)
    (hfits : token.fits count = true) :
    FitsBelow source (count + 1) := by
  intro place hplace
  rcases Nat.lt_succ_iff_lt_or_eq.mp hplace with hlt | rfl
  · exact hbelow place hlt
  · exact ⟨token, htoken, hfits⟩

/-- One more place is filled when the reader's token fits it. -/
theorem FitsBelow.holds
    {source : σ} {count : Nat} {reader : Reader σ} {token : Token}
    (hbelow : FitsBelow source count)
    (hholds : reader.Holds source count)
    (htoken : reader.current = token)
    (hfits : token.fits count = true) :
    FitsBelow source (count + 1) := by
  refine hbelow.succ hholds.token ?_
  rwa [htoken]

/-- The place whose answer is the source's first one not to fit. -/
structure FirstMisfit (source : σ) (place : Nat) : Prop where
  isPlace : place < 4
  below : FitsBelow source place
  misfits : ¬ Fits place (Source.answer source place)

theorem FirstMisfit.unique
    {source : σ} {first second : Nat}
    (hfirst : FirstMisfit source first)
    (hsecond : FirstMisfit source second) :
    first = second := by
  rcases Nat.lt_trichotomy first second with hlt | heq | hlt
  · exact absurd (hsecond.below first hlt) hfirst.misfits
  · exact heq
  · exact absurd (hfirst.below second hlt) hsecond.misfits

theorem FirstMisfit.of_token
    {source : σ} {place : Nat} {token : Token}
    (hplace : place < 4)
    (hbelow : FitsBelow source place)
    (htoken : Source.answer source place = .ok token)
    (hmisfit : token.fits place = false) :
    FirstMisfit source place := by
  refine ⟨hplace, hbelow, ?_⟩
  rw [htoken, fits_ok_iff, hmisfit]
  exact Bool.false_ne_true

theorem FirstMisfit.of_error
    {source : σ} {place : Nat} {error : SourceError}
    (hplace : place < 4)
    (hbelow : FitsBelow source place)
    (herror : Source.answer source place = .error error) :
    FirstMisfit source place := by
  refine ⟨hplace, hbelow, ?_⟩
  rw [herror]
  exact not_fits_error place error

/-- The tree of the first rule of a source, without what happened meanwhile. -/
def outcome (trace : Bool) (source : σ) : Except RuleError (Tree δ) :=
  (Tree.ofSource trace source).1

/-- The answers are those of a rule, and the outcome is the rule's tree. -/
def Delivers
    (source : σ)
    (outcome : Except RuleError (Tree δ)) :
    Prop :=
  ∃ name op value,
    Source.answer source 0 = .ok (.piece (.attr name)) ∧
    Source.answer source 1 = .ok (.piece (.operator op)) ∧
    Source.answer source 2 = .ok (.piece value) ∧
    value.category.isValue = true ∧
    Source.answer source 3 = .ok .finish ∧
    outcome = .ok (Tree.ofParts name op value)

/-- A place does not fit first, and the outcome is the error of its answer. -/
def Refuses
    (source : σ)
    (outcome : Except RuleError (Tree δ)) :
    Prop :=
  ∃ place, FirstMisfit source place ∧
    outcome = .error (fault place (Source.answer source place))

theorem Refuses.of_token
    {source : σ} {place : Nat} {token : Token}
    (hplace : place < 4)
    (hbelow : FitsBelow source place)
    (htoken : Source.answer source place = .ok token)
    (hmisfit : token.fits place = false) :
    Refuses source (.error (misfit token place) : Except RuleError (Tree δ)) := by
  refine ⟨place, .of_token hplace hbelow htoken hmisfit, ?_⟩
  rw [htoken, fault]

theorem Refuses.of_error
    {source : σ} {place : Nat} {error : SourceError}
    (hplace : place < 4)
    (hbelow : FitsBelow source place)
    (herror : Source.answer source place = .error error) :
    Refuses source (.error (.ofSource error) : Except RuleError (Tree δ)) := by
  refine ⟨place, .of_error hplace hbelow herror, ?_⟩
  rw [herror, fault]

/-- Each course that begins at a source's first answer ends as that source's answers say. -/
theorem delivers_or_refuses_of_course
    {source : σ} {reader : Reader σ} {step : Step σ (Tree δ)}
    (hholds : reader.Holds source 0)
    (hcourse : reader.Course step) :
    Delivers source step.outcome ∨ Refuses source step.outcome := by
  have hnone := FitsBelow.zero source
  cases hcourse with
  | empty hfinish =>
      refine Or.inr ?_
      have hrefuses := Refuses.of_token (δ := δ) (by decide) hnone hholds.token
        (by rw [hfinish]; rfl)
      rwa [hfinish] at hrefuses
  | noAttribute hpiece hattr =>
      refine Or.inr ?_
      have hrefuses := Refuses.of_token (δ := δ) (by decide) hnone hholds.token hattr
      rw [misfit, if_neg hpiece] at hrefuses
      rwa [Reader.misplaced, hholds.position]
  | attributeLost hattr hloses =>
      refine Or.inr (Refuses.of_error (by decide) ?_ (hholds.loses hloses))
      exact hnone.holds hholds hattr rfl
  | noOperator hattr hfirst hoperator =>
      refine Or.inr ?_
      have hone := hnone.holds hholds hattr rfl
      have hheld := hholds.shifts hfirst
      rw [Reader.misplaced, hheld.position]
      exact .of_token (by decide) hone hheld.token hoperator
  | operatorLost hattr hfirst hoperator hloses =>
      refine Or.inr ?_
      have hone := hnone.holds hholds hattr rfl
      have hheld := hholds.shifts hfirst
      have htwo := hone.holds hheld hoperator rfl
      exact .of_error (by decide) htwo (hheld.loses hloses)
  | noValue hattr hfirst hoperator hsecond hvalue =>
      refine Or.inr ?_
      have hone := hnone.holds hholds hattr rfl
      have htwo := hone.holds (hholds.shifts hfirst) hoperator rfl
      have hheld := (hholds.shifts hfirst).shifts hsecond
      rw [Reader.misplaced, hheld.position]
      exact .of_token (by decide) htwo hheld.token hvalue
  | valueLost hattr hfirst hoperator hsecond hvalue hisValue hloses =>
      refine Or.inr ?_
      have hone := hnone.holds hholds hattr rfl
      have htwo := hone.holds (hholds.shifts hfirst) hoperator rfl
      have hheld := (hholds.shifts hfirst).shifts hsecond
      have hthree := htwo.holds hheld hvalue (Token.fits_value hisValue)
      exact .of_error (by decide) hthree (hheld.loses hloses)
  | trailing hattr hfirst hoperator hsecond hvalue hisValue hthird htrailing =>
      refine Or.inr ?_
      have hone := hnone.holds hholds hattr rfl
      have htwo := hone.holds (hholds.shifts hfirst) hoperator rfl
      have hheld := (hholds.shifts hfirst).shifts hsecond
      have hthree := htwo.holds hheld hvalue (Token.fits_value hisValue)
      rw [(hheld.shifts hthird).position]
      exact .of_token (by decide) hthree (hheld.shifts hthird).token
        (decide_eq_false htrailing)
  | @rule name op value first second third hattr hfirst hoperator hsecond hvalue
      hisValue hthird hfinish =>
      refine Or.inl ⟨name, op, value, ?_, ?_, ?_, hisValue, ?_, rfl⟩
      · rw [hholds.token, hattr]
      · rw [(hholds.shifts hfirst).token, hoperator]
      · rw [((hholds.shifts hfirst).shifts hsecond).token, hvalue]
      · rw [(((hholds.shifts hfirst).shifts hsecond).shifts hthird).token, hfinish]

/-- A source's first four answers are a rule, or the first misfit among them is the error. -/
theorem delivers_or_refuses
    (trace : Bool)
    (source : σ) :
    Delivers source (outcome trace source : Except RuleError (Tree δ)) ∨
      Refuses source (outcome trace source : Except RuleError (Tree δ)) := by
  rcases hfirst : (Source.next source).1 with error | first
  · refine Or.inr ?_
    rw [outcome, Tree.ofSource_of_error trace hfirst]
    exact .of_error (by decide) (.zero source) hfirst
  · have hholds : Reader.Holds source 0 ⟨(Source.next source).2, first, 0, trace⟩ :=
      ⟨hfirst, rfl, rfl⟩
    rw [outcome, Tree.ofSource_outcome trace hfirst]
    exact delivers_or_refuses_of_course hholds (Reading.course_rule _)

theorem Delivers.fitsBelow
    {source : σ} {outcome : Except RuleError (Tree δ)}
    (h : Delivers source outcome) :
    FitsBelow source 4 := by
  obtain ⟨name, op, value, hname, hop, hvalue, hisValue, hfinish, -⟩ := h
  have htwo := ((FitsBelow.zero source).succ hname rfl).succ hop rfl
  exact (htwo.succ hvalue (Token.fits_value hisValue)).succ hfinish rfl

/-- The tree has nothing in it but what the answers carry. -/
theorem Delivers.outcome_eq
    {τ : Type} [Source τ]
    {source : σ} {other : τ} {first second : Except RuleError (Tree δ)}
    (hfirst : Delivers other first)
    (hsecond : Delivers source second)
    (hsame :
      ∀ place < 4, Source.answer other place = Source.answer source place) :
    first = second := by
  obtain ⟨name, op, value, hname, hop, hvalue, -, -, rfl⟩ := hfirst
  obtain ⟨name', op', value', hname', hop', hvalue', -, -, rfl⟩ := hsecond
  rw [hsame 0 (by decide), hname'] at hname
  rw [hsame 1 (by decide), hop'] at hop
  rw [hsame 2 (by decide), hvalue'] at hvalue
  cases hname
  cases hop
  cases hvalue
  rfl

theorem FirstMisfit.not_fitsBelow
    {source : σ} {place : Nat}
    (h : FirstMisfit source place) :
    ¬ FitsBelow source 4 := by
  intro hall
  exact h.misfits (hall place h.isPlace)

/-- A token that fits a place in front of the finish is a piece. -/
theorem Fits.piece
    {place : Nat} {answer : Except SourceError Token}
    (hfits : Fits place answer)
    (hplace : place < 3) :
    ∃ content, answer = .ok (.piece content) := by
  obtain ⟨token, rfl, hfits⟩ := hfits
  cases token with
  | piece content => exact ⟨content, rfl⟩
  | finish =>
      match place, hplace, hfits with
      | 0, _, hfits => cases hfits
      | 1, _, hfits => cases hfits
      | 2, _, hfits => cases hfits

end Rule

namespace Queue

/-- A queue that has only delivered pieces has delivered one for each answer. -/
theorem after_of_pieces
    (tokens : List Token)
    (count : Nat)
    (hpieces :
      ∀ index < count, ∃ content,
        Source.answer (ofList tokens) index = .ok (.piece content)) :
    Source.after (ofList tokens) count = ⟨tokens.drop count, count⟩ := by
  induction count with
  | zero => rfl
  | succ count ih =>
      have hafter := ih fun index hindex => hpieces index (Nat.lt_succ_of_lt hindex)
      obtain ⟨content, hanswer⟩ := hpieces count (Nat.lt_succ_self count)
      rw [Source.answer, hafter] at hanswer
      rw [Source.after_succ, hafter]
      rw [List.drop_add_one_eq_tail_drop]
      match tokens.drop count, hanswer with
      | .piece _ :: rest, _ => rfl
      | [.finish], hanswer => cases hanswer
      | .finish :: _ :: _, hanswer => cases hanswer

/-- A queue fails where a finish has a token behind it. -/
theorem error_of_pieces
    {tokens : List Token} {count : Nat} {error : SourceError}
    (hpieces :
      ∀ index < count, ∃ content,
        Source.answer (ofList tokens) index = .ok (.piece content))
    (herror : Source.answer (ofList tokens) count = .error error) :
    ∃ extra,
      tokens[count]? = some .finish ∧
      tokens[count + 1]? = some extra ∧
      error = .afterFinish extra.label count := by
  rw [Source.answer, after_of_pieces tokens count hpieces] at herror
  match hrest : tokens.drop count, herror with
  | .finish :: extra :: rest, herror =>
      refine ⟨extra, ?_, ?_, ?_⟩
      · rw [← List.head?_drop, hrest]
        rfl
      · rw [← List.head?_drop, List.drop_add_one_eq_tail_drop, hrest]
        rfl
      · cases herror
        rfl

end Queue

/-- An error of a scanner is about its text, and reported as such. -/
theorem Scanner.ofSource_error
    {scanner : Scanner} {index : Nat} {error : SourceError}
    (h : Source.answer scanner index = .error error) :
    RuleError.ofSource error = .lexical error := by
  have hanswer : (Scanner.next (Source.after scanner index)).1 = .error error := h
  have htakes := takes_next (Source.after scanner index)
  rw [hanswer] at htakes
  generalize (Scanner.next (Source.after scanner index)).2 = after at htakes
  cases htakes with
  | malformed => rfl
  | unexpected => rfl

namespace Rule

variable {σ δ : Type} [Source σ]

/-- The tree that is read carries what the first three answers say. -/
theorem outcome_eq_ok_iff
    {source : σ} {tree : Tree δ}
    (trace : Bool) :
    outcome trace source = .ok tree ↔ Delivers source (.ok tree : Except RuleError _) := by
  constructor
  · intro htree
    rcases delivers_or_refuses (δ := δ) trace source with hdelivers | ⟨place, -, herror⟩
    · rwa [htree] at hdelivers
    · rw [htree] at herror
      cases herror
  · intro hdelivers
    rcases delivers_or_refuses (δ := δ) trace source with hread | ⟨place, hplace, -⟩
    · exact hread.outcome_eq hdelivers fun _ _ => rfl
    · exact absurd hdelivers.fitsBelow hplace.not_fitsBelow

theorem ok_iff_fitsBelow
    (trace : Bool)
    (source : σ) :
    (∃ tree : Tree δ, outcome trace source = .ok tree) ↔ FitsBelow source 4 := by
  constructor
  · rintro ⟨tree, htree⟩
    exact ((outcome_eq_ok_iff trace).mp htree).fitsBelow
  · intro hall
    rcases delivers_or_refuses (δ := δ) trace source with hdelivers | ⟨place, hplace, -⟩
    · obtain ⟨name, op, value, -, -, -, -, -, htree⟩ := hdelivers
      exact ⟨_, htree⟩
    · exact absurd hall hplace.not_fitsBelow

theorem outcome_of_firstMisfit
    {source : σ} {place : Nat}
    (trace : Bool)
    (h : FirstMisfit source place) :
    (outcome trace source : Except RuleError (Tree δ)) =
      .error (fault place (Source.answer source place)) := by
  rcases delivers_or_refuses (δ := δ) trace source with hdelivers | ⟨other, hother, herror⟩
  · exact absurd hdelivers.fitsBelow h.not_fitsBelow
  · rwa [h.unique hother]

/-- A source whose answers are the same up to the first misfit has the same outcome. -/
theorem outcome_congr
    {τ : Type} [Source τ]
    {source : σ} {other : τ}
    (trace traced : Bool)
    (hagrees :
      ∀ place < 4, FitsBelow source place →
        Source.answer other place = Source.answer source place) :
    (outcome traced other : Except RuleError (Tree δ)) = outcome trace source := by
  have hbelow :
      ∀ place ≤ 4, FitsBelow source place → FitsBelow other place := by
    intro place hplace hfits earlier hearlier
    rw [hagrees earlier (by omega) fun index hindex => hfits index (by omega)]
    exact hfits earlier hearlier
  rcases delivers_or_refuses (δ := δ) trace source with hdelivers | ⟨place, hplace, herror⟩
  · have hfits := hdelivers.fitsBelow
    have hsame :
        ∀ place < 4, Source.answer other place = Source.answer source place := by
      intro place hplace
      exact hagrees place hplace fun index hindex => hfits index (by omega)
    rcases delivers_or_refuses (δ := δ) traced other with hother | ⟨index, hindex, -⟩
    · exact hother.outcome_eq hdelivers hsame
    · exact absurd (hbelow 4 le_rfl hfits) hindex.not_fitsBelow
  · have hanswer := hagrees place hplace.isPlace hplace.below
    have hother : FirstMisfit other place := by
      refine ⟨hplace.isPlace, hbelow place hplace.isPlace.le hplace.below, ?_⟩
      rw [hanswer]
      exact hplace.misfits
    rw [herror, outcome_of_firstMisfit traced hother, hanswer]

/--
A rule is read if and only if the first four answers fit their places, and the
tree carries what the first three say. Otherwise the first misfit decides the
error: that of the source, if it has one, and else that of the token at its
place. What comes behind it, or behind the fourth answer, has no part in the
outcome, whatever the source is and whether or not it is traced. A queue fails
only at a finish with a token behind it, which is then trailing input at its
place; a scanner's errors are lexical.
-/
theorem leftmost_misfit_decides
    (trace : Bool)
    (source : σ) :
    ((∃ tree : Tree δ, outcome trace source = .ok tree) ↔
      ∀ place < 4, Fits place (Source.answer source place)) ∧
    (∀ tree : Tree δ, outcome trace source = .ok tree →
      ∃ name op value,
        Source.answer source 0 = .ok (.piece (.attr name)) ∧
        Source.answer source 1 = .ok (.piece (.operator op)) ∧
        Source.answer source 2 = .ok (.piece value) ∧
        tree = Tree.ofParts name op value) ∧
    (∀ place, FirstMisfit source place →
      (outcome trace source : Except RuleError (Tree δ)) =
        .error (fault place (Source.answer source place))) ∧
    (∀ {τ : Type} [Source τ] (traced : Bool) (other : τ),
      (∀ place < 4, FitsBelow source place →
        Source.answer other place = Source.answer source place) →
      (outcome traced other : Except RuleError (Tree δ)) = outcome trace source) ∧
    (∀ (tokens : List Token) (place : Nat) (error : SourceError),
      FirstMisfit (Queue.ofList tokens) place →
      Source.answer (Queue.ofList tokens) place = .error error →
      ∃ extra,
        tokens[place]? = some .finish ∧
        tokens[place + 1]? = some extra ∧
        (outcome trace (Queue.ofList tokens) : Except RuleError (Tree δ)) =
          .error (.trailing extra.label place)) ∧
    (∀ (scanner : Scanner) (place : Nat) (error : SourceError),
      FirstMisfit scanner place →
      Source.answer scanner place = .error error →
      (outcome trace scanner : Except RuleError (Tree δ)) = .error (.lexical error)) ∧
    [Expectation.attr, .operator, .value].map Expectation.describe =
      ["attribute", "assignment operator", "value"] := by
  refine ⟨ok_iff_fitsBelow trace source, ?_, ?_, ?_, ?_, ?_, rfl⟩
  · intro tree htree
    obtain ⟨name, op, value, hname, hop, hvalue, -, -, hparts⟩ :=
      (outcome_eq_ok_iff trace).mp htree
    exact ⟨name, op, value, hname, hop, hvalue, Except.ok.inj hparts⟩
  · intro place hplace
    exact outcome_of_firstMisfit trace hplace
  · intro τ _ traced other hagrees
    exact outcome_congr trace traced hagrees
  · intro tokens place error hplace herror
    have hpieces :
        ∀ index < place, ∃ content,
          Source.answer (Queue.ofList tokens) index = .ok (.piece content) := by
      intro index hindex
      have hlast := hplace.isPlace
      exact (hplace.below index hindex).piece (by omega)
    obtain ⟨extra, hfinish, hextra, rfl⟩ := Queue.error_of_pieces hpieces herror
    refine ⟨extra, hfinish, hextra, ?_⟩
    rw [outcome_of_firstMisfit trace hplace, herror, fault, RuleError.ofSource]
  · intro scanner place error hplace herror
    rw [outcome_of_firstMisfit trace hplace, herror, fault, Scanner.ofSource_error herror]

/-- A finish in the second place hides the operator behind it. -/
theorem leftmost_misfit_decides_early_finish :
    let tokens : List Token :=
      [.piece (.attr "x"), .finish, .piece (.operator .assign), .piece .nil]
    FirstMisfit (Queue.ofList tokens) 1 ∧
      (outcome false (Queue.ofList tokens) : Except RuleError (Tree Unit)) =
        .error (.trailing "'='" 1) := by
  intro tokens
  have hplace : FirstMisfit (Queue.ofList tokens) 1 :=
    .of_error (by decide) ((FitsBelow.zero _).succ rfl rfl) rfl
  exact ⟨hplace, (leftmost_misfit_decides false (Queue.ofList tokens)).2.2.1 1 hplace⟩

end Rule

end LayoutRules
