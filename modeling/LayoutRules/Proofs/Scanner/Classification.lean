import LayoutRules.Proofs.Scanner.Lexeme

/-!
# The classification of literals

A text that opens a literal is an amount, a coordinate or malformed, by its
shape and by the value of its numeral. Another way to the numeral of an amount
starts from the end of the text: without the percentage marks and the units at
its end, a component is its numeral, so the mark found from the front is the one
removed from the end.
-/

namespace LayoutRules

namespace Literal

/-- The characters of percentage marks. -/
def isPercentage (c : Char) : Bool :=
  c == '%' || c == 'w' || c == 'h'

/-- A text that is written backwards without the units px that it begins with. -/
def dropUnits : List Char → List Char
  | 'x' :: 'p' :: rest => dropUnits rest
  | text => text

/-- A text without the percentage marks at its end, and then without the units px there. -/
def trimmed (text : List Char) : List Char :=
  (dropUnits (text.rdropWhile isPercentage).reverse).reverse

/-- A character that stands in the mark of a component. -/
def isMarked (c : Char) : Bool :=
  isPercentage c || c == 'p' || c == 'x'

theorem isMarked_eq_false_of_isDecimalDigit
    {c : Char}
    (h : Text.isDecimalDigit c = true) :
    isMarked c = false := by
  have hall :
      ['%', 'w', 'h', 'p', 'x'].all (fun c => !Text.isDecimalDigit c) = true := by
    decide
  rw [← Bool.not_eq_true]
  intro hmarked
  have hmem : c ∈ ['%', 'w', 'h', 'p', 'x'] := by
    simpa [isMarked, isPercentage, or_assoc] using hmarked
  have hdigit := List.all_eq_true.mp hall c hmem
  rw [h] at hdigit
  cases hdigit

/-- A numeral ends with a digit or with its point, which is in no mark. -/
theorem stops_isMarked_reverse
    {front : List Char} {numeral : Numeral}
    (h : Numeral.Spelling front numeral) :
    Text.Stops isMarked front.reverse := by
  have hpoint : isMarked '.' = false := by decide
  have hdigits {digits : List Char} (h : Text.Within Text.isDecimalDigit digits) :
      ∀ c ∈ digits, isMarked c = false :=
    fun c hc => isMarked_eq_false_of_isDecimalDigit (h c hc)
  have hbehind {fraction : List Char} (h : Text.Within Text.isDecimalDigit fraction) :
      ∀ c ∈ '.' :: fraction, isMarked c = false :=
    List.forall_mem_cons.mpr ⟨hpoint, hdigits h⟩
  cases h with
  | @whole sign whole negative hsign hwhole hne =>
      exact Text.stops_reverse_append sign hne (hdigits hwhole)
  | @pointed sign whole fraction negative hsign hwhole hfraction hne =>
      rw [← List.append_assoc]
      exact Text.stops_reverse_append (sign ++ whole) (List.cons_ne_nil _ _) (hbehind hfraction)
  | @fraction sign fraction negative hsign hfraction hne =>
      exact Text.stops_reverse_append sign (List.cons_ne_nil _ _) (hbehind hfraction)

theorem dropUnits_of_stops
    {text : List Char}
    (h : Text.Stops isMarked text) :
    dropUnits text = text := by
  unfold dropUnits
  split
  · next rest => exact absurd (Text.stops_cons.mp h) (by decide)
  · rfl

theorem stops_isPercentage
    {text : List Char}
    (h : Text.Stops isMarked text) :
    Text.Stops isPercentage text := by
  intro c hc
  have hmarked := h c hc
  simp only [isMarked, Bool.or_eq_false_iff] at hmarked
  exact hmarked.1.1

/-- Without its mark a component is its numeral. -/
theorem trimmed_append_mark
    {front mark : List Char} {numeral : Numeral} {basis : Basis}
    (hnumeral : Numeral.Spelling front numeral)
    (hmark : Basis.Mark mark basis) :
    trimmed (front ++ mark) = front := by
  have hstops := stops_isMarked_reverse hnumeral
  have hunits := dropUnits_of_stops hstops
  have hpercentage {mark : List Char} (hmark : Text.Within isPercentage mark) :
      trimmed (front ++ mark) = front := by
    rw [trimmed, Text.rdropWhile_append hmark (stops_isPercentage hstops), hunits,
      List.reverse_reverse]
  cases hmark with
  | bare => exact hpercentage Text.within_nil
  | pixels =>
      have hunit : Text.Stops isPercentage (front ++ ['p', 'x']).reverse := by
        simp [isPercentage]
      have hdrop := Text.rdropWhile_append Text.within_nil hunit
      rw [List.append_nil] at hdrop
      rw [trimmed, hdrop, List.reverse_append]
      exact (congrArg List.reverse hunits).trans (List.reverse_reverse front)
  | own => exact hpercentage (by simp [isPercentage])
  | width => exact hpercentage (by simp [isPercentage])
  | height => exact hpercentage (by simp [isPercentage])

end Literal

namespace Numeral

/-- Behind its sign a numeral has a digit or its point. -/
theorem Spelling.exists_first
    {front : List Char} {numeral : Numeral}
    (h : Spelling front numeral) :
    ∃ sign negative c rest,
      Sign sign negative ∧
      (Text.isDecimalDigit c = true ∨ c = '.') ∧
      front = sign ++ c :: rest := by
  have hdigits {sign whole rest : List Char} {negative : Bool}
      (hsign : Sign sign negative)
      (hwhole : Text.Within Text.isDecimalDigit whole)
      (hne : whole ≠ []) :
      ∃ sign' negative' c tail,
        Sign sign' negative' ∧
        (Text.isDecimalDigit c = true ∨ c = '.') ∧
        sign ++ (whole ++ rest) = sign' ++ c :: tail := by
    obtain ⟨c, tail, rfl⟩ := List.exists_cons_of_ne_nil hne
    exact ⟨sign, negative, c, tail ++ rest, hsign, .inl (Text.within_cons.mp hwhole).1, rfl⟩
  cases h with
  | whole hsign hwhole hne =>
      rw [← List.append_nil (_ ++ _), List.append_assoc]
      exact hdigits hsign hwhole hne
  | pointed hsign hwhole hfraction hne => exact hdigits hsign hwhole hne
  | fraction hsign hfraction hne => exact ⟨_, _, '.', _, hsign, .inr rfl, rfl⟩

/-- What stands behind the sign of a numeral is no other sign. -/
theorem Spelling.exists_unsigned
    {front : List Char} {numeral : Numeral}
    (h : Spelling front numeral) :
    ∃ sign negative c rest,
      Sign sign negative ∧ isSign c = false ∧ front = sign ++ c :: rest := by
  obtain ⟨sign, negative, c, rest, hsign, hfirst, hfront⟩ := h.exists_first
  refine ⟨sign, negative, c, rest, hsign, ?_, hfront⟩
  rcases hfirst with hdigit | rfl
  · exact isSign_eq_false_of_isDecimalDigit hdigit
  · decide

end Numeral

namespace Scanner

/-- The answers to texts that open a literal: amounts, coordinates and errors. -/
inductive Classified : List Char → Except SourceError Token → Prop
  | amount
      {front mark : List Char} {numeral : Numeral} {basis : Basis} {value : Binary64}
      (hnumeral : Numeral.Spelling front numeral)
      (hmark : Basis.Mark mark basis)
      (hdenotes : numeral.Denotes value) :
      Classified (front ++ mark) (.ok (.piece (.amount basis value)))
  | valueless
      {front mark : List Char} {numeral : Numeral} {basis : Basis}
      (hnumeral : Numeral.Spelling front numeral)
      (hmark : Basis.Mark mark basis)
      (hvalue : ¬ numeral.HasValue) :
      Classified (front ++ mark)
        (.error (.malformedLiteral (String.ofList (front ++ mark)) 0))
  | coordinate
      {first second : List Char} {a b : Component} {joint : Basis}
      (hfirst : Component.Spelling first a)
      (hsecond : Component.Spelling second b)
      (hjoint : Basis.Joint a.basis b.basis joint) :
      Classified (first ++ ',' :: second)
        (.ok (.piece (.coordinate joint (String.ofList (first ++ ',' :: second)))))
  | shapeless
      {text : List Char}
      (hsingle : ∀ component, ¬ Component.Spelling text component)
      (hpair :
        ∀ first second a b,
          Component.Spelling first a → Component.Spelling second b →
          text ≠ first ++ ',' :: second) :
      Classified text (.error (.malformedLiteral (String.ofList text) 0))

/-- The answer to a text that is read as a literal from its start. -/
def literalAnswer (text : List Char) : Except SourceError Token :=
  (Literal.content? text).elim
    (.error (.malformedLiteral (String.ofList text) 0))
    (fun content => .ok (.piece content))

/-- A text without blanks that opens a literal is read as one. -/
theorem next_of_opens
    {text : List Char}
    (hsolid : Text.Within isSolid text)
    (hopens : Literal.Opens text) :
    (ofList text).next.1 = literalAnswer text := by
  have hstarts := Literal.startsIn_iff_opens.mpr hopens
  have hstops : Text.Stops Text.isBlank text := by
    intro c hc
    simpa [isSolid] using hsolid c (List.mem_of_mem_head? hc)
  rw [next_of_blanks (s := ofList text) Text.within_nil hstops rfl,
    lexeme_of_literal hstarts hsolid Text.stops_nil (List.append_nil text).symm]
  rfl

/-- Every text has its answer as a literal among the four of the classification. -/
theorem classified_literalAnswer
    (text : List Char) :
    Classified text (literalAnswer text) := by
  unfold literalAnswer
  cases hcontent : Literal.content? text with
  | some content =>
      cases Literal.content?_eq_some_iff.mp hcontent with
      | amount hcomponent hdenotes =>
          obtain ⟨hnumeral, hmark⟩ := hcomponent
          exact .amount hnumeral hmark hdenotes
      | coordinate hfirst hsecond hjoint => exact .coordinate hfirst hsecond hjoint
  | none =>
      by_cases hsingle : ∃ component, Component.Spelling text component
      · obtain ⟨component, hcomponent⟩ := hsingle
        rw [Literal.content?_of_component hcomponent, Option.map_eq_none_iff] at hcontent
        obtain ⟨hnumeral, hmark⟩ := hcomponent
        exact .valueless hnumeral hmark (Numeral.value?_eq_none_iff.mp hcontent)
      · refine .shapeless (not_exists.mp hsingle) fun first second a b hfirst hsecond htext => ?_
        have hspelling := Literal.Spelling.coordinate hfirst hsecond (Basis.joint_join _ _)
        rw [htext, Literal.content?_eq_some_iff.mpr hspelling] at hcontent
        cases hcontent

/-- A text has only one answer of the classification. -/
theorem Classified.eq_literalAnswer
    {text : List Char} {answer : Except SourceError Token}
    (h : Classified text answer) :
    literalAnswer text = answer := by
  unfold literalAnswer
  cases h with
  | amount hnumeral hmark hdenotes =>
      rw [Literal.content?_eq_some_iff.mpr (.amount (.marked hnumeral hmark) hdenotes)]
      rfl
  | valueless hnumeral hmark hvalue =>
      rw [Literal.content?_of_component (.marked hnumeral hmark),
        Numeral.value?_eq_none_iff.mpr hvalue]
      rfl
  | coordinate hfirst hsecond hjoint =>
      rw [Literal.content?_eq_some_iff.mpr (.coordinate hfirst hsecond hjoint)]
      rfl
  | shapeless hsingle hpair =>
      cases hcontent : Literal.content? text with
      | none => rfl
      | some content =>
          cases Literal.content?_eq_some_iff.mp hcontent with
          | amount hcomponent hdenotes => exact absurd hcomponent (hsingle _)
          | coordinate hfirst hsecond hjoint =>
              exact absurd rfl (hpair _ _ _ _ hfirst hsecond)

/-- A numeral that opens a literal has one value behind every mark, or none behind any. -/
theorem next_of_marks
    {front mark : List Char} {numeral : Numeral}
    (hnumeral : Numeral.Spelling front numeral)
    (hopens : Literal.Opens (front ++ mark)) :
    (∃ value, ∀ mark' basis, Basis.Mark mark' basis →
      (ofList (front ++ mark')).next.1 = .ok (.piece (.amount basis value))) ∨
    (∀ mark' basis, Basis.Mark mark' basis →
      (ofList (front ++ mark')).next.1 =
        .error (.malformedLiteral (String.ofList (front ++ mark')) 0)) := by
  obtain ⟨sign, negative, c, rest, hsign, hc, hfront⟩ := hnumeral.exists_unsigned
  -- Whether a literal is opened is decided within the numeral, so no mark changes it.
  have hstarts (mark : List Char) :
      Literal.startsIn (front ++ mark) = Literal.opensNumber c := by
    rw [hfront, List.append_assoc]
    exact Literal.startsIn_sign_append (rest ++ mark) hsign hc
  have hnext {mark' : List Char} {basis : Basis} (hmark : Basis.Mark mark' basis) :
      (ofList (front ++ mark')).next.1 = literalAnswer (front ++ mark') := by
    refine next_of_opens ((Component.Spelling.marked hnumeral hmark).solid)
      (Literal.startsIn_iff_opens.mp ?_)
    rw [hstarts mark', ← hstarts mark]
    exact Literal.startsIn_iff_opens.mpr hopens
  by_cases hvalue : numeral.HasValue
  · obtain ⟨value, hdenotes⟩ := hvalue
    refine .inl ⟨value, fun mark' basis hmark => ?_⟩
    rw [hnext hmark]
    exact (Classified.amount hnumeral hmark hdenotes).eq_literalAnswer
  · refine .inr fun mark' basis hmark => ?_
    rw [hnext hmark]
    exact (Classified.valueless hnumeral hmark hvalue).eq_literalAnswer

/-- Two components joined by a comma are a coordinate, if the first one opens a literal. -/
theorem next_of_components
    {first second : List Char} {a b : Component} {joint : Basis}
    (hfirst : Component.Spelling first a)
    (hsecond : Component.Spelling second b)
    (hjoint : Basis.Joint a.basis b.basis joint)
    (hopens : Literal.Opens (first ++ ',' :: second)) :
    (ofList (first ++ ',' :: second)).next.1 =
      .ok (.piece (.coordinate joint (String.ofList (first ++ ',' :: second)))) := by
  have hcomma : Text.Within isSolid (',' :: second) :=
    Text.within_cons.mpr ⟨by decide, hsecond.solid⟩
  rw [next_of_opens (Text.within_append.mpr ⟨hfirst.solid, hcomma⟩) hopens]
  exact (Classified.coordinate hfirst hsecond hjoint).eq_literalAnswer

/--
The answer to a text without blanks that opens a literal is the one of the
classification. The mark of an amount is what the text has at its end besides
its numeral, and a numeral has the same value behind all marks, if it has any.
The basis of a coordinate does not depend on the order of its components.
-/
theorem literals_are_classified
    {text : List Char}
    (hsolid : Text.Within isSolid text)
    (hopens : Literal.Opens text) :
    (∀ answer, (ofList text).next.1 = answer ↔ Classified text answer) ∧
    (∀ front mark numeral basis,
      Numeral.Spelling front numeral →
      Basis.Mark mark basis →
      text = front ++ mark →
        Literal.trimmed text = front ∧
        ((∃ value, ∀ mark' basis', Basis.Mark mark' basis' →
            (ofList (front ++ mark')).next.1 = .ok (.piece (.amount basis' value))) ∨
          (∀ mark' basis', Basis.Mark mark' basis' →
            (ofList (front ++ mark')).next.1 =
              .error (.malformedLiteral (String.ofList (front ++ mark')) 0)))) ∧
    (∀ first second a b,
      Component.Spelling first a →
      Component.Spelling second b →
      text = first ++ ',' :: second →
      Literal.Opens second →
        ∃ joint,
          (ofList text).next.1 = .ok (.piece (.coordinate joint (String.ofList text))) ∧
          (ofList (second ++ ',' :: first)).next.1 =
            .ok (.piece (.coordinate joint (String.ofList (second ++ ',' :: first))))) := by
  refine ⟨fun answer => ?_, ?_, ?_⟩
  · rw [next_of_opens hsolid hopens]
    constructor
    · rintro rfl
      exact classified_literalAnswer text
    · exact Classified.eq_literalAnswer
  · rintro front mark numeral basis hnumeral hmark rfl
    exact ⟨Literal.trimmed_append_mark hnumeral hmark, next_of_marks hnumeral hopens⟩
  · rintro first second a b hfirst hsecond rfl hsecondOpens
    have hswapped : Literal.Opens (second ++ ',' :: first) :=
      Literal.startsIn_iff_opens.mp
        (Literal.startsIn_append _ (Literal.startsIn_iff_opens.mpr hsecondOpens))
    have hjoint := Basis.joint_join a.basis b.basis
    exact ⟨a.basis.join b.basis, next_of_components hfirst hsecond hjoint hopens,
      next_of_components hsecond hfirst hjoint.symm hswapped⟩

/-- A numeral of two scripts has no value, and still it is half of a coordinate. -/
theorem literals_are_classified_two_scripts :
    let amount := ['-', '1', '.', '5', '%', 'w']
    let valueless := ['1', '٣', 'p', 'x']
    let pair := ['1', '٣', 'p', 'x', ',', '-', '1', '.', '5', '%', 'w']
    (ofList amount).next.1 =
        .ok (.piece (.amount .width ⟨true, 0x3FF8000000000000, by decide⟩)) ∧
      Literal.trimmed amount = ['-', '1', '.', '5'] ∧
      (ofList valueless).next.1 = .error (.malformedLiteral "1٣px" 0) ∧
      (ofList pair).next.1 = .ok (.piece (.coordinate .width "1٣px,-1.5%w")) := by
  intro amount valueless pair
  have hamountSpelling : Numeral.Spelling ['-', '1', '.', '5'] ⟨true, ['1'], ['5']⟩ :=
    @Numeral.Spelling.pointed ['-'] ['1'] ['5'] true .minus
      (by decide) (by decide) (by decide)
  have hscriptsSpelling : Numeral.Spelling ['1', '٣'] ⟨false, ['1', '٣'], []⟩ :=
    @Numeral.Spelling.whole [] ['1', '٣'] false .absent
      (by decide) (by decide)
  have hamount :=
    @literals_are_classified amount (by decide)
      ⟨['-'], true, '1', ['.', '5', '%', 'w'], .minus, .inl rfl, rfl⟩
  have hvalueless :=
    @literals_are_classified valueless (by decide)
      (Literal.opens_of_isDigit ['٣', 'p', 'x'] (by decide))
  have hpair :=
    @literals_are_classified pair (by decide)
      (Literal.opens_of_isDigit _ (by decide))
  have hdenotes :
      (⟨true, ['1'], ['5']⟩ : Numeral).Denotes ⟨true, 0x3FF8000000000000, by decide⟩ :=
    Numeral.denotes_iff.mpr ⟨by decide, by decide, by decide +kernel⟩
  refine ⟨?_, ?_, ?_, ?_⟩
  · exact (hamount.1 _).mpr (.amount hamountSpelling .width hdenotes)
  · exact (hamount.2.1 _ _ _ _ hamountSpelling .width rfl).1
  · exact (hvalueless.1 _).mpr
      (.valueless hscriptsSpelling .pixels fun ⟨_, h⟩ => absurd (h.digits '٣') (by decide))
  · exact (hpair.1 _).mpr (.coordinate (.marked hscriptsSpelling .pixels)
      (.marked hamountSpelling .width) (Basis.joint_join .absolute .width))

end Scanner

end LayoutRules
