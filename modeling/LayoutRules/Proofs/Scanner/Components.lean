import LayoutRules.Proofs.Scanner.Classification
import LayoutRules.Proofs.Scanner.Surroundings
import LayoutRules.Proofs.Source.Agreement

/-!
# The components of coordinates by themselves

An amount has to have a value, a coordinate only has to have the shape of two
components: it is kept as it is written. So a component that is half of a
coordinate may be none of the amounts that a scanner delivers. Scanned alone, it
is one of them exactly if its digits are those of ASCII and the number nearest
to it is finite, and otherwise it is an error.
-/

namespace LayoutRules

namespace Numeral

/-- A numeral that has a value opens a literal. -/
theorem Spelling.opens
    {front : List Char} {numeral : Numeral}
    (h : Spelling front numeral)
    (hdigits : Text.Within Char.isDigit (numeral.whole ++ numeral.fraction)) :
    Literal.Opens front := by
  have hopens {sign whole rest : List Char} {negative : Bool}
      (hsign : Sign sign negative)
      (hwhole : Text.Within Char.isDigit whole)
      (hne : whole ≠ []) :
      Literal.Opens (sign ++ (whole ++ rest)) := by
    obtain ⟨c, tail, rfl⟩ := List.exists_cons_of_ne_nil hne
    exact ⟨sign, negative, c, tail ++ rest, hsign, .inl (Text.within_cons.mp hwhole).1, rfl⟩
  have hwhole := (Text.within_append.mp hdigits).1
  cases h with
  | whole hsign _ hne =>
      rw [← List.append_nil (_ ++ _), List.append_assoc]
      exact hopens hsign hwhole hne
  | pointed hsign _ _ hne => exact hopens hsign hwhole hne
  | fraction hsign _ hne => exact ⟨_, _, '.', _, hsign, .inr rfl, rfl⟩

end Numeral

/-- Digits alone are a component, and so are those that have no value. -/
theorem Component.spelling_digits
    {digits : List Char}
    (hdigits : Text.Within Text.isDecimalDigit digits)
    (hne : digits ≠ []) :
    Spelling digits ⟨⟨false, digits, []⟩, .absolute⟩ := by
  have hspelling := Spelling.marked (Numeral.Spelling.whole .absent hdigits hne) .bare
  rwa [List.nil_append, List.append_nil] at hspelling

namespace Scanner

section Alone

variable {text : List Char} {component : Component}

/-- A text whose first request fails is an error. -/
theorem scan_of_error
    {after : Scanner} {error : SourceError}
    (h : (ofList text).next = (.error error, after)) :
    scan (String.ofList text) = .error error := by
  have hpieces : (ofString (String.ofList text)).pieces = ([], some error) := by
    rw [ofString, String.toList_ofList]
    exact pieces_of_error h
  exact scan_of_pieces hpieces

/-- A text that is one lexeme is one piece. -/
theorem scan_of_lexeme
    {content : Content}
    (h : Lexeme text content) :
    scan (String.ofList text) = .ok [content] := by
  have hrest : (ofList text).rest = [] ++ (text ++ []) := (List.append_nil text).symm
  have hnext := next_of_lexeme Text.within_nil h Text.stops_nil hrest
  have hpieces : (ofString (String.ofList text)).pieces = ([content], none) := by
    rw [ofString, String.toList_ofList, pieces_of_piece hnext,
      pieces_of_finish (next_of_finish Text.within_nil rfl)]
  exact scan_of_pieces hpieces

/-- Neither a digit nor the sign in front of it begins the symbol of an operator. -/
theorem ofStart?_sign_append
    {sign : List Char} {negative : Bool} {c : Char}
    (rest : List Char)
    (hsign : Numeral.Sign sign negative)
    (hc : Text.isDecimalDigit c = true) :
    Operator.ofStart? (sign ++ c :: rest) = none := by
  have hdigits : ['=', '+', '-', '*', '/'].all (fun c => !Text.isDecimalDigit c) = true := by
    decide
  cases hop : Operator.ofStart? (sign ++ c :: rest) with
  | none => rfl
  | some op =>
      have hsplit := Operator.eq_append_of_ofStart? hop
      generalize List.drop _ _ = tail at hsplit
      have hmem : c ∈ ['=', '+', '-', '*', '/'] := by
        cases hsign <;> cases op <;> simp_all [Operator.characters]
      have hc' := List.all_eq_true.mp hdigits c hmem
      rw [hc] at hc'
      cases hc'

theorem startsName_eq_false_of_isDecimalDigit
    {c : Char}
    (hc : Text.isDecimalDigit c = true) :
    startsName c = false := by
  rw [startsName_eq]
  exact Text.Ranges.contains_eq_false_of_apart (by decide +kernel) hc

/-- A component that opens no literal begins with a digit, which a sign may precede. -/
theorem exists_digit_of_not_opens
    (hspelling : Component.Spelling text component)
    (hopens : ¬ Literal.Opens text) :
    ∃ sign negative c rest,
      Numeral.Sign sign negative ∧
      Text.isDecimalDigit c = true ∧
      text = sign ++ c :: rest := by
  obtain ⟨hnumeral, hmark⟩ := hspelling
  obtain ⟨sign, negative, c, rest, hsign, hfirst, rfl⟩ := hnumeral.exists_first
  rw [List.append_assoc, List.cons_append] at hopens ⊢
  refine ⟨sign, negative, c, _, hsign, ?_, rfl⟩
  rcases hfirst with hdigit | rfl
  · exact hdigit
  · exact absurd ⟨sign, negative, '.', _, hsign, .inr rfl, rfl⟩ hopens

/-- A character that begins no lexeme is left where it is. -/
theorem next_of_no_lexeme
    {c : Char} {rest : List Char}
    (hsolid : Text.Within isSolid (c :: rest))
    (hstarts : Literal.startsIn (c :: rest) = false)
    (hname : startsName c = false)
    (hsymbol : Operator.ofStart? (c :: rest) = none) :
    (ofList (c :: rest)).next = (.error (.unexpectedCharacter c 0), ofList (c :: rest)) := by
  have htakes : Takes (ofList (c :: rest)) _ _ :=
    .unexpected Text.within_nil (Text.within_cons.mp hsolid).1 hstarts hname hsymbol rfl
  exact htakes.next_eq

/-- The first character of a component that opens no literal begins no lexeme at all. -/
theorem next_of_not_opens
    (hspelling : Component.Spelling text component)
    (hopens : ¬ Literal.Opens text) :
    ∃ c rest,
      text = c :: rest ∧
      (ofList text).next = (.error (.unexpectedCharacter c 0), ofList text) := by
  have hsolid := hspelling.solid
  have hstarts : Literal.startsIn text = false := by
    rw [← Bool.not_eq_true, Literal.startsIn_iff_opens]
    exact hopens
  obtain ⟨sign, negative, c, rest, hsign, hdigit, rfl⟩ :=
    exists_digit_of_not_opens hspelling hopens
  have hsymbol := ofStart?_sign_append rest hsign hdigit
  cases hsign with
  | absent =>
      have hname := startsName_eq_false_of_isDecimalDigit hdigit
      exact ⟨_, _, rfl, next_of_no_lexeme hsolid hstarts hname hsymbol⟩
  | plus => exact ⟨_, _, rfl, next_of_no_lexeme hsolid hstarts (by decide) hsymbol⟩
  | minus => exact ⟨_, _, rfl, next_of_no_lexeme hsolid hstarts (by decide) hsymbol⟩

/-- A component that opens a literal and has no value is read past as malformed. -/
theorem scan_of_valueless
    (hspelling : Component.Spelling text component)
    (hopens : Literal.Opens text)
    (hvalue : ¬ component.numeral.HasValue) :
    scan (String.ofList text) = .error (.malformedLiteral (String.ofList text) 0) := by
  have hanswer : (ofList text).next.1 = _ := next_of_opens hspelling.solid hopens
  obtain ⟨hnumeral, hmark⟩ := hspelling
  rw [(Classified.valueless hnumeral hmark hvalue).eq_literalAnswer] at hanswer
  exact scan_of_error (Prod.ext hanswer rfl)

/-- A component that denotes a number is that amount. -/
theorem scan_of_denotes
    {value : Binary64}
    (hspelling : Component.Spelling text component)
    (hdenotes : component.numeral.Denotes value) :
    scan (String.ofList text) = .ok [.amount component.basis value] := by
  have hstarts : Literal.startsIn text = true := by
    obtain ⟨hnumeral, hmark⟩ := hspelling
    have hopens := hnumeral.opens hdenotes.digits
    exact Literal.startsIn_append _ (Literal.startsIn_iff_opens.mpr hopens)
  exact scan_of_lexeme (.literal hstarts (.amount hspelling hdenotes))

end Alone

/-- What comes of scanning the text of a component alone. -/
structure ScannedAlone
    (text : List Char)
    (component : Component) :
    Prop where
  spelling : Component.Spelling text component
  amount :
    ∀ value, component.numeral.Denotes value →
      scan (String.ofList text) = .ok [.amount component.basis value]
  malformed :
    ¬ component.numeral.HasValue →
    Literal.Opens text →
      scan (String.ofList text) = .error (.malformedLiteral (String.ofList text) 0)
  unexpected :
    ¬ Literal.Opens text →
      ∃ c ∈ text.head?, scan (String.ofList text) = .error (.unexpectedCharacter c 0)

/-- Scanned alone, the text is one amount, and its value is finite. -/
def IsAmount (text : List Char) : Prop :=
  ∃ basis value,
    value.isFinite = true ∧ scan (String.ofList text) = .ok [.amount basis value]

/-- The text splits at a comma into two amounts. -/
def IsPairOfAmounts (text : List Char) : Prop :=
  ∃ first second, text = first ++ ',' :: second ∧ IsAmount first ∧ IsAmount second

theorem scannedAlone
    {text : List Char} {component : Component}
    (h : Component.Spelling text component) :
    ScannedAlone text component where
  spelling := h
  amount _ hdenotes := scan_of_denotes h hdenotes
  malformed hvalue hopens := scan_of_valueless h hopens hvalue
  unexpected hopens := by
    obtain ⟨c, rest, rfl, hnext⟩ := next_of_not_opens h hopens
    exact ⟨c, rfl, scan_of_error hnext⟩

/-- A component is an amount exactly if its numeral has a value. -/
theorem ScannedAlone.isAmount_iff
    {text : List Char} {component : Component}
    (h : ScannedAlone text component) :
    IsAmount text ↔ component.numeral.HasValue := by
  constructor
  · rintro ⟨basis, value, -, hscan⟩
    by_contra hvalue
    by_cases hopens : Literal.Opens text
    · rw [h.malformed hvalue hopens] at hscan
      cases hscan
    · obtain ⟨c, -, herror⟩ := h.unexpected hopens
      rw [herror] at hscan
      cases hscan
  · rintro ⟨value, hdenotes⟩
    exact ⟨_, value, hdenotes.finite, h.amount value hdenotes⟩

theorem comma_not_mem
    {text : List Char} {component : Component}
    (h : Component.Spelling text component) :
    ',' ∉ text := by
  intro hmem
  exact absurd (h.within ',' hmem) (by decide)

/-- A text with one comma splits there only, so both components have to have a value. -/
theorem isPairOfAmounts_iff
    {first second : List Char} {a b : Component}
    (hfirst : ScannedAlone first a)
    (hsecond : ScannedAlone second b) :
    IsPairOfAmounts (first ++ ',' :: second) ↔
      a.numeral.HasValue ∧ b.numeral.HasValue := by
  rw [← hfirst.isAmount_iff, ← hsecond.isAmount_iff]
  constructor
  · rintro ⟨first', second', hsplit, hboth⟩
    obtain ⟨rfl, -, rfl⟩ :=
      (List.append_cons_inj_of_notMem (comma_not_mem hfirst.spelling)
        (comma_not_mem hsecond.spelling)).mp hsplit
    exact hboth
  · intro hboth
    exact ⟨first, second, rfl, hboth⟩

/--
Each coordinate that is delivered splits at its only comma into two components.
Scanned alone, a component whose digits are those of ASCII is one amount if the
number nearest to it is finite, and any other component is an error; so the two
are amounts exactly if both their numerals have a value.
-/
theorem coordinate_splits_into_components
    {text : String} {index : Nat} {basis : Basis} {coordinate : String}
    (h :
      Source.answer (ofString text) index = .ok (.piece (.coordinate basis coordinate))) :
    ∃ first second a b,
      coordinate.toList = first ++ ',' :: second ∧
      ',' ∉ first ∧
      ',' ∉ second ∧
      ScannedAlone first a ∧
      ScannedAlone second b ∧
      Basis.Joint a.basis b.basis basis ∧
      (IsPairOfAmounts coordinate.toList ↔
        a.numeral.HasValue ∧ b.numeral.HasValue) := by
  obtain ⟨lexeme, hlexeme⟩ := exists_lexeme_of_next (Prod.ext h rfl)
  cases hlexeme with
  | literal hstarts hspelling =>
      cases hspelling with
      | @coordinate first second a b joint hfirst hsecond hjoint =>
          have hone := scannedAlone hfirst
          have htwo := scannedAlone hsecond
          refine ⟨first, second, a, b, String.toList_ofList, comma_not_mem hfirst,
            comma_not_mem hsecond, hone, htwo, hjoint, ?_⟩
          rw [String.toList_ofList]
          exact isPairOfAmounts_iff hone htwo

/-- The first half of a coordinate has no value, and the second one is an amount. -/
theorem coordinate_splits_into_components_two_scripts :
    Source.answer (ofString "x = 1٣,-2.5%w") 2 =
        .ok (.piece (.coordinate .width "1٣,-2.5%w")) ∧
      ∃ first second a b,
        "1٣,-2.5%w".toList = first ++ ',' :: second ∧
        ',' ∉ first ∧
        ',' ∉ second ∧
        ScannedAlone first a ∧
        ScannedAlone second b ∧
        Basis.Joint a.basis b.basis .width ∧
        (IsPairOfAmounts "1٣,-2.5%w".toList ↔
          a.numeral.HasValue ∧ b.numeral.HasValue) := by
  have hanswer :
      Source.answer (ofString "x = 1٣,-2.5%w") 2 =
        .ok (.piece (.coordinate .width "1٣,-2.5%w")) := by
    rfl
  exact ⟨hanswer, coordinate_splits_into_components hanswer⟩

/-- A number beyond the finite ones and a digit outside ASCII are halves of coordinates. -/
theorem components_need_no_value :
    let overflowing := '1' :: ',' :: List.replicate 309 '9'
    let foreign := ['1', ',', '٣']
    (ofList overflowing).next.1 =
        .ok (.piece (.coordinate .absolute (String.ofList overflowing))) ∧
      ¬ IsPairOfAmounts overflowing ∧
      (ofList foreign).next.1 =
        .ok (.piece (.coordinate .absolute (String.ofList foreign))) ∧
      ¬ IsPairOfAmounts foreign := by
  intro overflowing foreign
  have hone := @Component.spelling_digits ['1'] (by decide) (by decide)
  have hthree := @Component.spelling_digits ['٣'] (by decide) (by decide)
  have hnines :=
    @Component.spelling_digits (List.replicate 309 '9')
      (fun c hc => List.eq_of_mem_replicate hc ▸ by decide) (by decide)
  have hopens (rest : List Char) : Literal.Opens ('1' :: rest) :=
    Literal.opens_of_isDigit rest (by decide)
  refine ⟨next_of_components hone hnines (Basis.joint_join _ _) (hopens _), ?_,
    next_of_components hone hthree (Basis.joint_join _ _) (hopens _), ?_⟩
  · intro hpair
    obtain ⟨-, hvalue⟩ :=
      (isPairOfAmounts_iff (scannedAlone hone) (scannedAlone hnines)).mp hpair
    exact absurd (Numeral.hasValue_iff.mp hvalue).2 (by decide +kernel)
  · intro hpair
    obtain ⟨-, value, hdenotes⟩ :=
      (isPairOfAmounts_iff (scannedAlone hone) (scannedAlone hthree)).mp hpair
    exact absurd hdenotes.digits (by decide)

end Scanner
end LayoutRules
