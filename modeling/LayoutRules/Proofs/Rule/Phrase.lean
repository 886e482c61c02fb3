import LayoutRules.Proofs.Rule.Verdict

/-!
# The grammar of rules

A rule's text is a name, an operator's symbol and the text of a value, with
blanks around them or without. The relation IsRule says so of a text that is
split into its pieces. A text is read exactly when it has such a split, which
is then its only one.
-/

namespace LayoutRules

namespace Value

/--
The texts of values: the word nil, a component whose numeral denotes a number, or
two components joined by a comma. The basis of a coordinate is what its two
components have in common.
-/
inductive Spelling : List Char → Content → Prop
  | absent : Spelling ['n', 'i', 'l'] .nil
  | amount
      {text : List Char} {numeral : Numeral} {basis : Basis} {value : Binary64}
      (hopens : Literal.Opens text)
      (hcomponent : Component.Spelling text ⟨numeral, basis⟩)
      (hdenotes : numeral.Denotes value) :
      Spelling text (.amount basis value)
  | coordinate
      {first second : List Char} {a b : Component} {joint : Basis}
      (hopens : Literal.Opens (first ++ ',' :: second))
      (hfirst : Component.Spelling first a)
      (hsecond : Component.Spelling second b)
      (hjoint : Basis.Joint a.basis b.basis joint) :
      Spelling (first ++ ',' :: second)
        (.coordinate joint (String.ofList (first ++ ',' :: second)))

/-- The texts of values are the lexemes of values. -/
theorem spelling_iff_lexeme
    {text : List Char} {content : Content} :
    Spelling text content ↔
      Scanner.Lexeme text content ∧ content.category.isValue = true := by
  constructor
  · intro h
    cases h with
    | absent => exact ⟨.absent, rfl⟩
    | amount hopens hcomponent hdenotes =>
        exact ⟨.literal (Literal.startsIn_iff_opens.mpr hopens)
          (.amount hcomponent hdenotes), rfl⟩
    | coordinate hopens hfirst hsecond hjoint =>
        exact ⟨.literal (Literal.startsIn_iff_opens.mpr hopens)
          (.coordinate hfirst hsecond hjoint), rfl⟩
  · rintro ⟨hlexeme, hisValue⟩
    cases hlexeme with
    | name => cases hisValue
    | absent => exact .absent
    | symbol => cases hisValue
    | literal hstarts hspelling =>
        have hopens := Literal.startsIn_iff_opens.mp hstarts
        cases hspelling with
        | amount hcomponent hdenotes => exact .amount hopens hcomponent hdenotes
        | coordinate hfirst hsecond hjoint => exact .coordinate hopens hfirst hsecond hjoint

/-- A value has a character, and none of its characters is blank. -/
theorem Spelling.solid
    {text : List Char} {content : Content}
    (h : Spelling text content) :
    text ≠ [] ∧ Text.Within Scanner.isSolid text := by
  cases h with
  | absent =>
      refine ⟨by decide, ?_⟩
      simp only [Text.within_cons]
      exact ⟨by decide, by decide, by decide, Text.within_nil⟩
  | amount hopens hcomponent hdenotes =>
      exact ⟨hopens.ne_nil, (Literal.Spelling.amount hcomponent hdenotes).within⟩
  | coordinate hopens hfirst hsecond hjoint =>
      exact ⟨hopens.ne_nil, (Literal.Spelling.coordinate hfirst hsecond hjoint).within⟩

end Value

/-- The pieces of a rule's text and what stands around them. -/
structure Phrase where
  before : List Char
  name : List Char
  afterName : List Char
  op : Operator
  afterOperator : List Char
  value : List Char
  after : List Char

namespace Phrase

/-- The text behind the operator. -/
def behindOperator (phrase : Phrase) : List Char :=
  phrase.afterOperator ++ (phrase.value ++ phrase.after)

/-- The text behind the name. -/
def behindName (phrase : Phrase) : List Char :=
  phrase.afterName ++ (phrase.op.characters ++ phrase.behindOperator)

/-- The whole text. -/
def characters (phrase : Phrase) : List Char :=
  phrase.before ++ (phrase.name ++ phrase.behindName)

/-- The pieces are those of a rule with the given value, and only blanks stand around them. -/
structure IsRule (phrase : Phrase) (value : Content) : Prop where
  before : Text.Within Text.isBlank phrase.before
  isName : Scanner.IsName phrase.name
  ne_nil : phrase.name ≠ ['n', 'i', 'l']
  afterName : Text.Within Text.isBlank phrase.afterName
  afterOperator : Text.Within Text.isBlank phrase.afterOperator
  value : Value.Spelling phrase.value value
  after : Text.Within Text.isBlank phrase.after

variable {phrase : Phrase} {value : Content}

theorem IsRule.nameLexeme
    (h : phrase.IsRule value) :
    Scanner.Lexeme phrase.name (.attr (String.ofList phrase.name)) :=
  .name h.isName h.ne_nil

theorem IsRule.valueLexeme
    (h : phrase.IsRule value) :
    Scanner.Lexeme phrase.value value :=
  (Value.spelling_iff_lexeme.mp h.value).1

/-- Neither blanks nor a symbol go on with a name. -/
theorem IsRule.stops_name
    (h : phrase.IsRule value) :
    Text.Stops Scanner.continuesName phrase.behindName := by
  refine h.afterName.stops_append ?_ fun c hc =>
    Scanner.continuesName_eq_false_of_isBlank hc
  cases phrase.op <;> exact Text.stops_cons.mpr (by decide)

/-- Blanks do not go on with a value. -/
theorem IsRule.stops_value
    (h : phrase.IsRule value) :
    Text.Stops (Scanner.continues value) phrase.after := by
  intro c hc
  exact Scanner.continues_eq_false_of_isBlank value (h.after c (List.mem_of_mem_head? hc))

/-- A text is split into the pieces of a rule in at most one way. -/
theorem IsRule.unique
    {other : Phrase} {value' : Content}
    (h : phrase.IsRule value)
    (h' : other.IsRule value')
    (heq : phrase.characters = other.characters) :
    phrase = other ∧ value = value' := by
  obtain ⟨hbefore, hname, -, hbehind⟩ :=
    h.nameLexeme.split_unique h.before h'.before h'.nameLexeme h.stops_name h'.stops_name heq
  obtain ⟨hafterName, -, hop, hbehind⟩ :=
    (Scanner.Lexeme.symbol phrase.op).split_unique h.afterName h'.afterName
      (.symbol other.op) (fun _ _ => rfl) (fun _ _ => rfl) hbehind
  obtain ⟨hafterOperator, hvalue, hcontent, hafter⟩ :=
    h.valueLexeme.split_unique h.afterOperator h'.afterOperator h'.valueLexeme
      h.stops_value h'.stops_value hbehind
  cases phrase
  cases other
  cases hbefore
  cases hname
  cases hafterName
  cases hop
  cases hafterOperator
  cases hvalue
  cases hafter
  exact ⟨rfl, hcontent⟩

end Phrase

namespace Scanner

/-- A request is answered by a piece exactly when its lexeme is next. -/
theorem answer_eq_piece_iff
    {s : Scanner} {index : Nat} {content : Content} {rest : List Char} :
    Source.answer s index = .ok (.piece content) ∧ (Source.after s (index + 1)).rest = rest ↔
      ∃ blanks lexeme,
        Text.Within Text.isBlank blanks ∧
        Lexeme lexeme content ∧
        Text.Stops (continues content) rest ∧
        (Source.after s index).rest = blanks ++ (lexeme ++ rest) := by
  constructor
  · rintro ⟨hanswer, rfl⟩
    have htakes : Takes (Source.after s index) (Source.answer s index)
        (Source.after s (index + 1)) :=
      takes_next (Source.after s index)
    rw [hanswer] at htakes
    generalize Source.after s (index + 1) = after at htakes
    cases htakes with
    | piece hblanks hlexeme hstops hrest => exact ⟨_, _, hblanks, hlexeme, hstops, hrest⟩
  · rintro ⟨blanks, lexeme, hblanks, hlexeme, hstops, hrest⟩
    have hnext := next_of_lexeme hblanks hlexeme hstops hrest
    exact ⟨congrArg Prod.fst hnext, congrArg (fun answer => answer.2.rest) hnext⟩

/-- A request is answered by the finish exactly when only blanks are left. -/
theorem answer_eq_finish_iff
    {s : Scanner} {index : Nat} :
    Source.answer s index = .ok .finish ↔
      Text.Within Text.isBlank (Source.after s index).rest := by
  constructor
  · intro hanswer
    have htakes : Takes (Source.after s index) (Source.answer s index)
        (Source.after s (index + 1)) :=
      takes_next (Source.after s index)
    rw [hanswer] at htakes
    generalize Source.after s (index + 1) = after at htakes
    cases htakes with
    | finish hblanks hrest => exact hrest ▸ hblanks
  · intro hblanks
    exact congrArg Prod.fst (next_of_finish hblanks rfl)

end Scanner

namespace Rule

variable {δ : Type}

/-- What a scanner delivers is a rule that its text spells. -/
theorem delivers_iff_isRule
    {scanner : Scanner} {tree : Tree δ} :
    Delivers scanner (.ok tree : Except RuleError (Tree δ)) ↔
      ∃ phrase value,
        Phrase.IsRule phrase value ∧
        phrase.characters = scanner.rest ∧
        tree = Tree.ofParts (String.ofList phrase.name) phrase.op value := by
  constructor
  · rintro ⟨name, op, value, hname, hop, hvalue, hisValue, hfinish, htree⟩
    obtain ⟨before, nameText, hbefore, hnameLexeme, -, hrest⟩ :=
      Scanner.answer_eq_piece_iff.mp ⟨hname, rfl⟩
    obtain ⟨afterName, symbol, hafterName, hsymbol, -, hbehindName⟩ :=
      Scanner.answer_eq_piece_iff.mp ⟨hop, rfl⟩
    obtain ⟨afterOperator, valueText, hafterOperator, hvalueLexeme, -, hbehindOperator⟩ :=
      Scanner.answer_eq_piece_iff.mp ⟨hvalue, rfl⟩
    have hafter := Scanner.answer_eq_finish_iff.mp hfinish
    have hspelling := Value.spelling_iff_lexeme.mpr ⟨hvalueLexeme, hisValue⟩
    cases hsymbol with
    | literal _ hspelling => cases hspelling
    | symbol =>
        cases hnameLexeme with
        | literal _ hspelling => cases hspelling
        | name hisName hne =>
            refine
              ⟨⟨before, nameText, afterName, op, afterOperator, valueText, _⟩, value,
                ⟨hbefore, hisName, hne, hafterName, hafterOperator, hspelling, hafter⟩,
                ?_, Except.ok.inj htree⟩
            rw [Phrase.characters, Phrase.behindName, Phrase.behindOperator,
              ← hbehindOperator, ← hbehindName, ← hrest]
            rfl
  · rintro ⟨phrase, value, hrule, htext, rfl⟩
    have hstart : (Source.after scanner 0).rest = phrase.characters := htext.symm
    obtain ⟨hname, hbehindName⟩ :=
      Scanner.answer_eq_piece_iff.mpr
        ⟨phrase.before, phrase.name, hrule.before, hrule.nameLexeme, hrule.stops_name,
          hstart⟩
    obtain ⟨hop, hbehindOperator⟩ :=
      Scanner.answer_eq_piece_iff.mpr
        ⟨phrase.afterName, phrase.op.characters, hrule.afterName, .symbol phrase.op,
          fun _ _ => rfl, hbehindName⟩
    obtain ⟨hvalue, hafter⟩ :=
      Scanner.answer_eq_piece_iff.mpr
        ⟨phrase.afterOperator, phrase.value, hrule.afterOperator, hrule.valueLexeme,
          hrule.stops_value, hbehindOperator⟩
    have hfinish := Scanner.answer_eq_finish_iff.mpr (hafter ▸ hrule.after)
    have hisValue := (Value.spelling_iff_lexeme.mp hrule.value).2
    exact ⟨_, _, _, hname, hop, hvalue, hisValue, hfinish, rfl⟩

theorem parse_eq_outcome
    (rule : String) :
    (Tree.parse rule : Except RuleError (Tree δ)) =
      outcome false (Scanner.ofString rule) :=
  rfl

theorem parse_eq_ok_iff
    {rule : String} {tree : Tree δ} :
    Tree.parse rule = .ok tree ↔
      ∃ phrase value,
        Phrase.IsRule phrase value ∧
        phrase.characters = rule.toList ∧
        tree = Tree.ofParts (String.ofList phrase.name) phrase.op value := by
  rw [parse_eq_outcome, outcome_eq_ok_iff, delivers_iff_isRule]
  rfl

/-- A text that is not too long is read in the same way under all settings. -/
theorem ofText_outcome
    {settings : Settings} {rule : String}
    (h : settings.lengthError? rule = none) :
    (Tree.ofText settings rule : Except RuleError (Tree δ) × List Event).1 = Tree.parse rule := by
  have htrace :
      (outcome settings.trace (Scanner.ofString rule) : Except RuleError (Tree δ)) =
        Tree.parse rule :=
    outcome_congr false settings.trace fun _ _ _ => rfl
  rw [Tree.ofText, h, ← htrace]
  rfl

/-- The settings decide whether a text is read, and not what it is read as. -/
theorem ofText_eq_ok_iff
    {settings : Settings} {rule : String} {tree : Tree δ} :
    (Tree.ofText settings rule).1 = .ok tree ↔
      settings.lengthError? rule = none ∧ Tree.parse rule = .ok tree := by
  cases hlength : settings.lengthError? rule with
  | some error => simp [Tree.ofText, hlength]
  | none => simp [ofText_outcome hlength]

/--
A text is read exactly when it is a name, a symbol and a value with blanks
around them, in one way only, and its tree is the operator over the name and
what the value denotes. No blank is needed anywhere.
-/
theorem parse_iff_phrase
    (rule : String) :
    ((∃ tree : Tree δ, Tree.parse rule = .ok tree) ↔
      ∃ phrase value,
        Phrase.IsRule phrase value ∧ phrase.characters = rule.toList) ∧
    (∀ phrase value,
      Phrase.IsRule phrase value → phrase.characters = rule.toList →
        (Tree.parse rule : Except RuleError (Tree δ)) =
          .ok (.branch (.operator phrase.op)
            (.leaf (.attr (String.ofList phrase.name)) none) (.leaf value none) none)) ∧
    (∀ phrase value phrase' value',
      Phrase.IsRule phrase value → phrase.characters = rule.toList →
      Phrase.IsRule phrase' value' → phrase'.characters = rule.toList →
        phrase = phrase' ∧ value = value') := by
  refine ⟨⟨?_, ?_⟩, ?_, ?_⟩
  · rintro ⟨tree, htree⟩
    obtain ⟨phrase, value, hrule, htext, -⟩ := parse_eq_ok_iff.mp htree
    exact ⟨phrase, value, hrule, htext⟩
  · rintro ⟨phrase, value, hrule, htext⟩
    exact ⟨_, parse_eq_ok_iff.mpr ⟨phrase, value, hrule, htext, rfl⟩⟩
  · intro phrase value hrule htext
    exact parse_eq_ok_iff.mpr ⟨phrase, value, hrule, htext, rfl⟩
  · intro phrase value phrase' value' hrule htext hrule' htext'
    exact hrule.unique hrule' (htext.trans htext'.symm)

/--
Rules without blanks: a sign of the symbol and of the number, and pairs on unlike
bases. Around the pieces of the last rule stand blanks beyond ASCII, and its pair
has a digit beyond ASCII.
-/
theorem parse_iff_phrase_of_pairs :
    let phrase (op : Operator) (value : List Char) : Phrase := ⟨[], ['x'], [], op, [], value, []⟩
    let tree (name : String) (op : Operator) (value : Content) : Tree Unit :=
      .branch (.operator op) (.leaf (.attr name) none) (.leaf value none) none
    let half : Content := .amount .own ⟨true, 0x3FE0000000000000, by decide⟩
    let wide : Content := .coordinate .width "10,20%w"
    let mixed : Content := .coordinate .own "10%w,20%h"
    let spaced : Phrase :=
      ⟨['\u3000'], ['_', '9'], ['\u00A0'], .multiply, ['\t', '\u2003'],
        ['1', '0', '%', 'h', ',', '٢', 'p', 'x'], ['\u0085']⟩
    let high : Content := .coordinate .height "10%h,٢px"
    (phrase .subtract ['-', '.', '5', '%']).IsRule half ∧
      (Tree.parse "x-=-.5%" : Except RuleError (Tree Unit)) = .ok (tree "x" .subtract half) ∧
      (phrase .assign ['1', '0', ',', '2', '0', '%', 'w']).IsRule wide ∧
      (Tree.parse "x=10,20%w" : Except RuleError (Tree Unit)) = .ok (tree "x" .assign wide) ∧
      (phrase .add ['1', '0', '%', 'w', ',', '2', '0', '%', 'h']).IsRule mixed ∧
      (Tree.parse "x+=10%w,20%h" : Except RuleError (Tree Unit)) = .ok (tree "x" .add mixed) ∧
      spaced.IsRule high ∧
      (Tree.parse "\u3000_9\u00A0*=\t\u200310%h,٢px\u0085" : Except RuleError (Tree Unit)) =
        .ok (tree "_9" .multiply high) := by
  intro phrase tree half wide mixed spaced high
  have hrule {op : Operator} {text : List Char} {value : Content}
      (hvalue : Value.Spelling text value) :
      (phrase op text).IsRule value :=
    ⟨Text.within_nil, ⟨'x', [], rfl, by decide, Text.within_nil⟩, by simp [phrase],
      Text.within_nil, Text.within_nil, hvalue, Text.within_nil⟩
  have hhalf : Value.Spelling ['-', '.', '5', '%'] half := by
    have hnumeral : Numeral.Spelling ['-', '.', '5'] ⟨true, [], ['5']⟩ :=
      .fraction .minus (by decide) (by decide)
    have hdenotes : (⟨true, [], ['5']⟩ : Numeral).Denotes ⟨true, 0x3FE0000000000000, by decide⟩ :=
      Numeral.denotes_iff.mpr ⟨by decide, by decide, by decide +kernel⟩
    exact .amount ⟨['-'], true, '.', ['5', '%'], .minus, .inr rfl, rfl⟩ (.marked hnumeral .own)
      hdenotes
  have hten : Numeral.Spelling ['1', '0'] ⟨false, ['1', '0'], []⟩ :=
    .whole .absent (by decide) (by decide)
  have htwenty : Numeral.Spelling ['2', '0'] ⟨false, ['2', '0'], []⟩ :=
    .whole .absent (by decide) (by decide)
  have htwo : Numeral.Spelling ['٢'] ⟨false, ['٢'], []⟩ :=
    .whole .absent (by decide +kernel) (by decide)
  have hopens (rest : List Char) : Literal.Opens ('1' :: rest) :=
    Literal.opens_of_isDigit rest (by decide)
  have hwide : Value.Spelling ['1', '0', ',', '2', '0', '%', 'w'] wide := by
    refine .coordinate (hopens _) (.marked hten .bare) (.marked htwenty .width) ?_
    constructor <;> simp [Basis.Prevails]
  have hmixed : Value.Spelling ['1', '0', '%', 'w', ',', '2', '0', '%', 'h'] mixed := by
    refine .coordinate (hopens _) (.marked hten .width) (.marked htwenty .height) ?_
    constructor <;> simp [Basis.Prevails]
  have hhigh : Value.Spelling ['1', '0', '%', 'h', ',', '٢', 'p', 'x'] high := by
    refine .coordinate (hopens _) (.marked hten .height) (.marked htwo .pixels) ?_
    constructor <;> simp [Basis.Prevails]
  have hspaced : spaced.IsRule high :=
    ⟨by decide, ⟨'_', ['9'], rfl, by decide, by decide⟩, by decide, by decide, by decide,
      hhigh, by decide⟩
  exact ⟨hrule hhalf, (parse_iff_phrase "x-=-.5%").2.1 _ half (hrule hhalf) (by decide),
    hrule hwide, (parse_iff_phrase "x=10,20%w").2.1 _ wide (hrule hwide) (by decide),
    hrule hmixed, (parse_iff_phrase "x+=10%w,20%h").2.1 _ mixed (hrule hmixed) (by decide),
    hspaced, (parse_iff_phrase _).2.1 spaced high hspaced (by decide)⟩

end Rule

end LayoutRules
