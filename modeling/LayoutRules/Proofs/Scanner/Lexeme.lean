import LayoutRules.Proofs.Literal.Spelling
import LayoutRules.Scanner

/-!
# What a scanner takes from its text

A request takes the blanks at the scanner's position and then one lexeme, or
finds that none begins there. The relation Takes lists the four things that
may happen with the whole of the unread text in view: the blanks, the lexeme
and the remainder make it up, and the remainder does not go on with the lexeme.
-/

namespace LayoutRules
namespace Scanner

/-- The code points of the characters [A-Za-z0-9_] of names. -/
def nameRanges : Text.Ranges where
  bounds := [(0x30, 0x39), (0x41, 0x5A), (0x5F, 0x5F), (0x61, 0x7A)]

/-- The code points of the characters [A-Za-z_] that begin names. -/
def nameStartRanges : Text.Ranges where
  bounds := [(0x41, 0x5A), (0x5F, 0x5F), (0x61, 0x7A)]

/-- The code points of the signs, the point and the digits that begin literals. -/
def literalStartRanges : Text.Ranges where
  bounds := [(0x2B, 0x2B), (0x2D, 0x2E), (0x30, 0x39)]

/-- The letters of ASCII by their code points. -/
theorem isAlpha_eq
    (c : Char) :
    c.isAlpha =
      (decide (c.val ≥ 65 ∧ c.val ≤ 90) ||
        decide (c.val ≥ 97) && decide (c.val ≤ 122)) :=
  rfl

theorem continuesName_eq
    (c : Char) :
    continuesName c = nameRanges.contains c := by
  rw [Bool.eq_iff_iff]
  simp [continuesName, nameRanges, Text.Ranges.contains, Char.isAlphanum, isAlpha_eq,
    Char.isDigit, UInt32.le_iff_toNat_le, ← Char.toNat_inj]
  omega

theorem startsName_eq
    (c : Char) :
    startsName c = nameStartRanges.contains c := by
  rw [Bool.eq_iff_iff]
  simp [startsName, nameStartRanges, Text.Ranges.contains, isAlpha_eq,
    UInt32.le_iff_toNat_le, ← Char.toNat_inj]
  omega

/-- Blanks do not go on with a name. -/
theorem continuesName_eq_false_of_isBlank
    {c : Char}
    (h : Text.isBlank c = true) :
    continuesName c = false := by
  rw [continuesName_eq]
  exact Text.Ranges.contains_eq_false_of_apart (by decide +kernel) h

theorem continuesName_of_startsName
    {c : Char}
    (h : startsName c = true) :
    continuesName c = true := by
  simp only [startsName, continuesName, Char.isAlphanum, Bool.or_eq_true] at h ⊢
  exact h.imp_left Or.inl

theorem opensLiteral_eq
    (c : Char) :
    (Numeral.isSign c || Literal.opensNumber c) = literalStartRanges.contains c := by
  rw [Bool.eq_iff_iff]
  simp [Numeral.isSign, Literal.opensNumber, literalStartRanges, Text.Ranges.contains,
    Char.isDigit, UInt32.le_iff_toNat_le, ← Char.toNat_inj]
  omega

/-- What begins a name is neither a sign nor the beginning of a number. -/
theorem not_literal_of_startsName
    {c : Char}
    (h : startsName c = true) :
    Numeral.isSign c = false ∧ Literal.opensNumber c = false := by
  rw [startsName_eq] at h
  have hliteral : literalStartRanges.contains c = false :=
    Text.Ranges.contains_eq_false_of_apart (by decide +kernel) h
  rw [← opensLiteral_eq] at hliteral
  exact Bool.or_eq_false_iff.mp hliteral

/-- The names: a letter of ASCII or an underscore, then letters, digits and underscores. -/
def IsName (text : List Char) : Prop :=
  ∃ c rest,
    text = c :: rest ∧
    (c.isAlpha = true ∨ c = '_') ∧
    Text.Within (fun d => d.isAlphanum || d == '_') rest

/-- The names are what the scanner begins as a name and goes on with. -/
theorem isName_iff
    {text : List Char} :
    IsName text ↔
      ∃ c rest, text = c :: rest ∧ startsName c = true ∧ Text.Within continuesName rest := by
  simp only [IsName, startsName, Bool.or_eq_true, beq_iff_eq]
  rfl

theorem IsName.within
    {text : List Char}
    (h : IsName text) :
    Text.Within continuesName text := by
  obtain ⟨c, rest, rfl, hc, hrest⟩ := isName_iff.mp h
  exact Text.within_cons.mpr ⟨continuesName_of_startsName hc, hrest⟩

/-- The characters outside blanks, of which literals are runs. -/
def isSolid (c : Char) : Bool :=
  !Text.isBlank c

/-- The characters that would go on with the lexeme of a content. -/
def continues : Content → Char → Bool
  | .attr _ => continuesName
  | .nil => continuesName
  | .amount _ _ => isSolid
  | .coordinate _ _ => isSolid
  | .operator _ => fun _ => false

/-- Blanks go on with no lexeme. -/
theorem continues_eq_false_of_isBlank
    (content : Content)
    {c : Char}
    (h : Text.isBlank c = true) :
    continues content c = false := by
  have hsolid : isSolid c = false := by simp [isSolid, h]
  cases content with
  | attr name => exact continuesName_eq_false_of_isBlank h
  | nil => exact continuesName_eq_false_of_isBlank h
  | amount basis value => exact hsolid
  | coordinate basis text => exact hsolid
  | operator op => rfl

/-- The lexemes of a content. -/
inductive Lexeme : List Char → Content → Prop
  | name
      {text : List Char}
      (hname : IsName text)
      (hne : text ≠ ['n', 'i', 'l']) :
      Lexeme text (.attr (String.ofList text))
  | absent : Lexeme ['n', 'i', 'l'] .nil
  | symbol
      (op : Operator) :
      Lexeme op.characters (.operator op)
  | literal
      {text : List Char} {content : Content}
      (hstarts : Literal.startsIn text = true)
      (hspelling : Literal.Spelling text content) :
      Lexeme text content

/-- What a request takes from the unread text, what it leaves, and its answer. -/
inductive Takes (s : Scanner) : Except SourceError Token → Scanner → Prop
  | finish
      {blanks : List Char}
      (hblanks : Text.Within Text.isBlank blanks)
      (hrest : s.rest = blanks) :
      Takes s (.ok .finish) ⟨[], s.position + blanks.length⟩
  | piece
      {blanks lexeme rest : List Char} {content : Content}
      (hblanks : Text.Within Text.isBlank blanks)
      (hlexeme : Lexeme lexeme content)
      (hstops : Text.Stops (continues content) rest)
      (hrest : s.rest = blanks ++ (lexeme ++ rest)) :
      Takes s (.ok (.piece content)) ⟨rest, s.position + blanks.length + lexeme.length⟩
  | malformed
      {blanks literal rest : List Char}
      (hblanks : Text.Within Text.isBlank blanks)
      (hliteral : Text.Within isSolid literal)
      (hstarts : Literal.startsIn literal = true)
      (hcontent : Literal.content? literal = none)
      (hstops : Text.Stops isSolid rest)
      (hrest : s.rest = blanks ++ (literal ++ rest)) :
      Takes s
        (.error (.malformedLiteral (String.ofList literal) (s.position + blanks.length)))
        ⟨rest, s.position + blanks.length + literal.length⟩
  | unexpected
      {blanks rest : List Char} {c : Char}
      (hblanks : Text.Within Text.isBlank blanks)
      (hsolid : isSolid c = true)
      (hliteral : Literal.startsIn (c :: rest) = false)
      (hname : startsName c = false)
      (hsymbol : Operator.ofStart? (c :: rest) = none)
      (hrest : s.rest = blanks ++ c :: rest) :
      Takes s
        (.error (.unexpectedCharacter c (s.position + blanks.length)))
        ⟨c :: rest, s.position + blanks.length⟩

section Lexemes

variable {s : Scanner} {text rest : List Char}

theorem advance_of_rest
    (hrest : s.rest = text ++ rest) :
    s.advance text.length = ⟨rest, s.position + text.length⟩ := by
  rw [advance, hrest, List.drop_left]

/-- A request reads the lexeme behind the blanks. -/
theorem next_of_blanks
    {blanks : List Char}
    (hblanks : Text.Within Text.isBlank blanks)
    (hstops : Text.Stops Text.isBlank rest)
    (hrest : s.rest = blanks ++ rest) :
    s.next = lexeme ⟨rest, s.position + blanks.length⟩ := by
  rw [next, skipBlanks, hrest, Text.takeWhile_append hblanks hstops, advance_of_rest hrest]

theorem startsIn_name
    (hname : IsName text) :
    Literal.startsIn (text ++ rest) = false := by
  obtain ⟨c, tail, rfl, hc, -⟩ := isName_iff.mp hname
  obtain ⟨hsign, hopens⟩ := not_literal_of_startsName hc
  rw [← hopens]
  exact Literal.startsIn_sign_append (tail ++ rest) .absent hsign

theorem startsIn_symbol
    (op : Operator)
    (rest : List Char) :
    Literal.startsIn (op.characters ++ rest) = false := by
  cases op <;> rfl

theorem isSolid_of_opensNumber
    {c : Char}
    (h : Literal.opensNumber c = true) :
    isSolid c = true := by
  have hliteral : literalStartRanges.contains c = true := by
    rw [← opensLiteral_eq, h, Bool.or_true]
  have hblank : Text.isBlank c = false :=
    Text.Ranges.contains_eq_false_of_apart (by decide +kernel) hliteral
  simp [isSolid, hblank]

theorem isSolid_of_sign
    {sign : List Char} {negative : Bool}
    (h : Numeral.Sign sign negative) :
    Text.Within isSolid sign := by
  cases h <;> simp [isSolid] <;> decide

/-- The solid characters in front of a text start a literal when the text does. -/
theorem startsIn_takeWhile
    (h : Literal.startsIn text = true) :
    Literal.startsIn (text.takeWhile isSolid) = true := by
  obtain ⟨sign, negative, c, rest, hsign, hopens, rfl⟩ := Literal.startsIn_iff.mp h
  have hsolid : Text.Within isSolid (sign ++ [c]) := by
    simp [isSolid_of_sign hsign, isSolid_of_opensNumber hopens]
  have htake :
      (sign ++ c :: rest).takeWhile isSolid = sign ++ c :: rest.takeWhile isSolid := by
    have happend :
        (sign ++ [c] ++ rest).takeWhile isSolid = sign ++ [c] ++ rest.takeWhile isSolid :=
      List.takeWhile_append_of_pos hsolid
    simpa using happend
  rw [htake]
  exact Literal.startsIn_iff.mpr ⟨sign, negative, c, _, hsign, hopens, rfl⟩

theorem lexeme_cons
    {c : Char} {tail : List Char}
    (hcons : s.rest = c :: tail) :
    s.lexeme =
      if Literal.startsIn s.rest then
        s.literal
      else if startsName c then
        s.name
      else
        s.symbol c := by
  unfold lexeme
  rw [hcons]

/-- What starts as a literal is read as one up to the next blank. -/
theorem lexeme_of_literal
    (hstarts : Literal.startsIn text = true)
    (htext : Text.Within isSolid text)
    (hstops : Text.Stops isSolid rest)
    (hrest : s.rest = text ++ rest) :
    s.lexeme =
      ((Literal.content? text).elim
        (.error (.malformedLiteral (String.ofList text) s.position))
        (fun content => .ok (.piece content)),
      ⟨rest, s.position + text.length⟩) := by
  have hs : Literal.startsIn s.rest = true := by
    rw [hrest]
    exact Literal.startsIn_append rest hstarts
  have htake : (s.rest.takeWhile fun c => !Text.isBlank c) = text := by
    rw [hrest]
    exact Text.takeWhile_append htext hstops
  have hliteral : s.lexeme = s.literal := by
    cases hcons : s.rest with
    | nil =>
        rw [hcons] at hs
        cases hs
    | cons c tail => rw [lexeme_cons hcons, if_pos hs]
  rw [hliteral, literal, htake, advance_of_rest hrest]
  cases Literal.content? text <;> rfl

/-- What starts as a name is read as a word as far as it goes. -/
theorem lexeme_of_name
    (hname : IsName text)
    (hstops : Text.Stops continuesName rest)
    (hrest : s.rest = text ++ rest) :
    s.lexeme = (.ok (.piece (word text)), ⟨rest, s.position + text.length⟩) := by
  have hstarts : Literal.startsIn s.rest = false := by
    rw [hrest]
    exact startsIn_name hname
  have htake : s.rest.takeWhile continuesName = text := by
    rw [hrest]
    exact Text.takeWhile_append hname.within hstops
  obtain ⟨c, tail, htext, hc, -⟩ := isName_iff.mp hname
  have hcons : s.rest = c :: (tail ++ rest) := by
    rw [hrest, htext, List.cons_append]
  rw [lexeme_cons hcons, hstarts, hc, if_neg Bool.false_ne_true, if_pos rfl, name, htake,
    advance_of_rest hrest]

/-- The symbol of an operator is read whatever follows it. -/
theorem lexeme_of_symbol
    (op : Operator)
    (hrest : s.rest = op.characters ++ rest) :
    s.lexeme =
      (.ok (.piece (.operator op)), ⟨rest, s.position + op.characters.length⟩) := by
  have hstarts : Literal.startsIn s.rest = false := by
    rw [hrest]
    exact startsIn_symbol op rest
  obtain ⟨c, tail, hcharacters, hc⟩ :
      ∃ c tail, op.characters = c :: tail ∧ startsName c = false := by
    cases op <;> exact ⟨_, _, rfl, by decide⟩
  have hcons : s.rest = c :: (tail ++ rest) := by
    rw [hrest, hcharacters, List.cons_append]
  have hop : Operator.ofStart? s.rest = some op := by
    rw [hrest, Operator.ofStart?_append]
  rw [lexeme_cons hcons, hstarts, hc, if_neg Bool.false_ne_true, if_neg Bool.false_ne_true]
  simp only [symbol, hop, advance_of_rest hrest]

/-- A lexeme does not begin with a blank. -/
theorem Lexeme.stops_isBlank
    {content : Content}
    (rest : List Char)
    (h : Lexeme text content) :
    Text.Stops Text.isBlank (text ++ rest) := by
  cases h with
  | name hname hne =>
      obtain ⟨c, tail, rfl, hc, -⟩ := isName_iff.mp hname
      rw [List.cons_append, Text.stops_cons, ← Bool.not_eq_true]
      intro hblank
      have hcontinues := continuesName_of_startsName hc
      rw [continuesName_eq_false_of_isBlank hblank] at hcontinues
      cases hcontinues
  | absent => exact Text.stops_cons.mpr (by decide)
  | symbol op => cases op <;> exact Text.stops_cons.mpr (by decide)
  | literal hstarts hspelling =>
      obtain ⟨sign, negative, c, tail, hsign, hopens, rfl⟩ := Literal.startsIn_iff.mp hstarts
      have hc : Text.isBlank c = false := by simpa [isSolid] using isSolid_of_opensNumber hopens
      cases hsign with
      | absent => exact Text.stops_cons.mpr hc
      | plus => exact Text.stops_cons.mpr (by decide)
      | minus => exact Text.stops_cons.mpr (by decide)

/-- Behind blanks, the lexeme of a content that does not go on is read as that content. -/
theorem next_of_lexeme
    {blanks lexeme : List Char} {content : Content}
    (hblanks : Text.Within Text.isBlank blanks)
    (hlexeme : Lexeme lexeme content)
    (hstops : Text.Stops (continues content) rest)
    (hrest : s.rest = blanks ++ (lexeme ++ rest)) :
    s.next =
      (.ok (.piece content), ⟨rest, s.position + blanks.length + lexeme.length⟩) := by
  rw [next_of_blanks hblanks (hlexeme.stops_isBlank rest) hrest]
  cases hlexeme with
  | name hname hne =>
      rw [lexeme_of_name hname hstops rfl, word, if_neg hne]
  | absent =>
      have hname : IsName ['n', 'i', 'l'] :=
        ⟨'n', ['i', 'l'], rfl, by decide, by decide⟩
      rw [lexeme_of_name hname hstops rfl, word, if_pos rfl]
  | symbol op =>
      rw [lexeme_of_symbol op rfl]
  | literal hstarts hspelling =>
      have hsolid : Text.Stops isSolid rest := by
        cases hspelling <;> exact hstops
      rw [lexeme_of_literal hstarts hspelling.within hsolid rfl,
        Literal.content?_eq_some_iff.mpr hspelling]
      rfl

/-- Behind nothing but blanks there is the finish. -/
theorem next_of_finish
    {blanks : List Char}
    (hblanks : Text.Within Text.isBlank blanks)
    (hrest : s.rest = blanks) :
    s.next = (.ok .finish, ⟨[], s.position + blanks.length⟩) := by
  have hbehind : s.rest = blanks ++ [] := by rw [hrest, List.append_nil]
  rw [next_of_blanks hblanks Text.stops_nil hbehind]
  rfl

/-- A text begins with at most one lexeme behind blanks. -/
theorem Lexeme.split_unique
    {blanks blanks' lexeme lexeme' rest' : List Char} {content content' : Content}
    (hblanks : Text.Within Text.isBlank blanks)
    (hblanks' : Text.Within Text.isBlank blanks')
    (hlexeme : Lexeme lexeme content)
    (hlexeme' : Lexeme lexeme' content')
    (hstops : Text.Stops (continues content) rest)
    (hstops' : Text.Stops (continues content') rest')
    (heq : blanks ++ (lexeme ++ rest) = blanks' ++ (lexeme' ++ rest')) :
    blanks = blanks' ∧ lexeme = lexeme' ∧ content = content' ∧ rest = rest' := by
  have hnext := next_of_lexeme (s := ⟨_, 0⟩) hblanks hlexeme hstops rfl
  have hnext' := next_of_lexeme (s := ⟨_, 0⟩) hblanks' hlexeme' hstops' heq
  have hboth := hnext.symm.trans hnext'
  have hcontent : content = content' := by
    simpa using congrArg Prod.fst hboth
  have hrest : rest = rest' := by
    simpa using congrArg (fun answer => answer.2.rest) hboth
  have hsame : blanks = blanks' := by
    have htake := Text.takeWhile_append hblanks (hlexeme.stops_isBlank rest)
    have htake' := Text.takeWhile_append hblanks' (hlexeme'.stops_isBlank rest')
    rw [← htake, heq, htake']
  subst hsame hrest
  have hlexemes := List.append_cancel_right (List.append_cancel_left heq)
  exact ⟨rfl, hlexemes, hcontent, rfl⟩

/-- A lexeme behind blanks is what a request takes. -/
theorem takes_of_lexeme
    {blanks lexeme : List Char} {content : Content}
    (hblanks : Text.Within Text.isBlank blanks)
    (hlexeme : Lexeme lexeme content)
    (hstops : Text.Stops (continues content) rest)
    (hrest : s.rest = blanks ++ (lexeme ++ rest)) :
    Takes s s.next.1 s.next.2 := by
  rw [next_of_lexeme hblanks hlexeme hstops hrest]
  exact Takes.piece hblanks hlexeme hstops hrest

/-- A literal behind blanks is taken whether or not it denotes a content. -/
theorem takes_of_literal
    {blanks literal : List Char}
    (hblanks : Text.Within Text.isBlank blanks)
    (hliteral : Text.Within isSolid literal)
    (hstarts : Literal.startsIn literal = true)
    (hstops : Text.Stops isSolid rest)
    (hblank : Text.Stops Text.isBlank (literal ++ rest))
    (hrest : s.rest = blanks ++ (literal ++ rest)) :
    Takes s s.next.1 s.next.2 := by
  cases hcontent : Literal.content? literal with
  | none =>
      rw [next_of_blanks hblanks hblank hrest, lexeme_of_literal hstarts hliteral hstops rfl,
        hcontent]
      exact Takes.malformed hblanks hliteral hstarts hcontent hstops hrest
  | some content =>
      have hspelling := Literal.content?_eq_some_iff.mp hcontent
      have hcontinues : Text.Stops (continues content) rest := by
        cases hspelling <;> exact hstops
      exact takes_of_lexeme hblanks (Lexeme.literal hstarts hspelling) hcontinues hrest

/-- A name behind blanks is taken, and one name is the absent value. -/
theorem takes_of_name
    {blanks name : List Char}
    (hblanks : Text.Within Text.isBlank blanks)
    (hname : IsName name)
    (hstops : Text.Stops continuesName rest)
    (hrest : s.rest = blanks ++ (name ++ rest)) :
    Takes s s.next.1 s.next.2 := by
  by_cases hnil : name = ['n', 'i', 'l']
  · subst hnil
    exact takes_of_lexeme hblanks Lexeme.absent hstops hrest
  · exact takes_of_lexeme hblanks (Lexeme.name hname hnil) hstops hrest

/-- Every request takes one of the four things from the unread text. -/
theorem takes_next
    (s : Scanner) :
    Takes s s.next.1 s.next.2 := by
  have hblanks := Text.within_takeWhile Text.isBlank s.rest
  have hstops := Text.stops_dropWhile Text.isBlank s.rest
  have hrest := (List.takeWhile_append_dropWhile (p := Text.isBlank) (l := s.rest)).symm
  generalize s.rest.takeWhile Text.isBlank = blanks at hblanks hrest
  generalize s.rest.dropWhile Text.isBlank = behind at hstops hrest
  cases behind with
  | nil =>
      have hblank : s.rest = blanks := by simpa using hrest
      rw [next_of_finish hblanks hblank]
      exact Takes.finish hblanks hblank
  | cons c tail =>
      have hsolid : isSolid c = true := by simpa [isSolid] using hstops
      by_cases hliteral : Literal.startsIn (c :: tail) = true
      · have hsplit :=
          (List.takeWhile_append_dropWhile (p := isSolid) (l := c :: tail)).symm
        rw [hsplit] at hrest hstops
        exact takes_of_literal hblanks (Text.within_takeWhile isSolid (c :: tail))
          (startsIn_takeWhile hliteral) (Text.stops_dropWhile isSolid (c :: tail))
          hstops hrest
      · by_cases hname : startsName c = true
        · have hsplit :
              c :: tail = c :: tail.takeWhile continuesName ++ tail.dropWhile continuesName := by
            rw [List.cons_append, List.takeWhile_append_dropWhile]
          rw [hsplit] at hrest
          exact takes_of_name hblanks
            (isName_iff.mpr ⟨c, _, rfl, hname, Text.within_takeWhile continuesName tail⟩)
            (Text.stops_dropWhile continuesName tail) hrest
        · cases hsymbol : Operator.ofStart? (c :: tail) with
          | some op =>
              rw [Operator.eq_append_of_ofStart? hsymbol] at hrest
              exact takes_of_lexeme hblanks (Lexeme.symbol op) (fun _ _ => rfl) hrest
          | none =>
              rw [next_of_blanks hblanks hstops hrest, lexeme_cons rfl, if_neg hliteral,
                if_neg hname, symbol, hsymbol]
              exact Takes.unexpected hblanks hsolid (by simpa using hliteral)
                (by simpa using hname) hsymbol hrest

/-- What a request delivers has a lexeme. -/
theorem exists_lexeme_of_next
    {s after : Scanner} {content : Content}
    (h : s.next = (.ok (.piece content), after)) :
    ∃ lexeme, Lexeme lexeme content := by
  have htakes := takes_next s
  rw [h] at htakes
  cases htakes with
  | piece hblanks hlexeme hstops hrest => exact ⟨_, hlexeme⟩

end Lexemes

end Scanner
end LayoutRules
