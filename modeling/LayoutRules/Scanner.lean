import LayoutRules.Literal
import LayoutRules.Source
import LayoutRules.Text.Blank

/-!
# Scanning the text of a rule

A scanner stands at a position of a text. At each request it skips blanks
and reads one lexeme: a literal runs to the next blank, a name as far as it
can, an operator is its symbol. A malformed literal is read past; a character
that begins no lexeme is not.
-/

namespace LayoutRules

/-- The unread characters of a text and the number of those read. -/
structure Scanner where
  rest : List Char
  position : Nat
deriving DecidableEq, Repr

namespace Scanner

/-- A scanner at the start of a text. -/
def ofList (text : List Char) : Scanner :=
  ⟨text, 0⟩

/-- A scanner at the start of a text. -/
def ofString (text : String) : Scanner :=
  ofList text.toList

/-- The scanner behind a number of characters. -/
def advance
    (s : Scanner)
    (count : Nat) :
    Scanner :=
  ⟨s.rest.drop count, s.position + count⟩

/-- The scanner behind the blanks at its position. -/
def skipBlanks (s : Scanner) : Scanner :=
  s.advance (s.rest.takeWhile Text.isBlank).length

/-- A name begins with a letter of ASCII or an underscore. -/
def startsName (c : Char) : Bool :=
  c.isAlpha || c == '_'

/-- A name goes on with letters and digits of ASCII and underscores. -/
def continuesName (c : Char) : Bool :=
  c.isAlphanum || c == '_'

/-- A word is a name, and one of them is the absent value. -/
def word (characters : List Char) : Content :=
  if characters = ['n', 'i', 'l'] then
    .nil
  else
    .attr (String.ofList characters)

/-- The characters up to the next blank, read as a literal. -/
def literal (s : Scanner) : Except SourceError Token × Scanner :=
  let text := s.rest.takeWhile fun c => !Text.isBlank c
  let answer :=
    match Literal.content? text with
    | some content => .ok (.piece content)
    | none => .error (.malformedLiteral (String.ofList text) s.position)
  (answer, s.advance text.length)

/-- The characters of a name, read as a word. -/
def name (s : Scanner) : Except SourceError Token × Scanner :=
  let characters := s.rest.takeWhile continuesName
  (.ok (.piece (word characters)), s.advance characters.length)

/-- The symbol of an operator; any other character is left where it is. -/
def symbol (s : Scanner) (c : Char) : Except SourceError Token × Scanner :=
  match Operator.ofStart? s.rest with
  | some op => (.ok (.piece (.operator op)), s.advance op.characters.length)
  | none => (.error (.unexpectedCharacter c s.position), s)

/-- The answer at a position where no blank stands. -/
def lexeme (s : Scanner) : Except SourceError Token × Scanner :=
  match s.rest with
  | [] => (.ok .finish, s)
  | c :: _ =>
      if Literal.startsIn s.rest then
        s.literal
      else if startsName c then
        s.name
      else
        s.symbol c

/-- The answer to a request. -/
def next (s : Scanner) : Except SourceError Token × Scanner :=
  s.skipBlanks.lexeme

instance : Source Scanner where
  next := next

theorem skipBlanks_rest
    (s : Scanner) :
    s.skipBlanks.rest = s.rest.dropWhile Text.isBlank := by
  calc
    s.skipBlanks.rest
      = (s.rest.takeWhile Text.isBlank ++ s.rest.dropWhile Text.isBlank).drop
          (s.rest.takeWhile Text.isBlank).length := by
        rw [List.takeWhile_append_dropWhile]
        rfl
    _ = s.rest.dropWhile Text.isBlank := List.drop_left

theorem skipBlanks_rest_length_le
    (s : Scanner) :
    s.skipBlanks.rest.length ≤ s.rest.length := by
  simp [skipBlanks, advance]

/-- No blank stands where blanks have been skipped. -/
theorem isBlank_eq_false_of_skipBlanks
    {s : Scanner} {c : Char} {rest : List Char}
    (h : s.skipBlanks.rest = c :: rest) :
    Text.isBlank c = false := by
  have hhead := List.head?_dropWhile_not Text.isBlank s.rest
  rw [← skipBlanks_rest, h] at hhead
  simpa using hhead

theorem advance_rest_length_lt
    (s : Scanner)
    {count : Nat}
    (hrest : s.rest ≠ [])
    (hcount : 0 < count) :
    (s.advance count).rest.length < s.rest.length := by
  have hpos := List.length_pos_iff.mpr hrest
  simp only [advance, List.length_drop]
  omega

/-- A lexeme that is delivered has at least one character. -/
theorem lexeme_rest_length_lt
    {s after : Scanner} {c : Char} {rest : List Char} {content : Content}
    (hrest : s.rest = c :: rest)
    (hblank : Text.isBlank c = false)
    (h : s.lexeme = (.ok (.piece content), after)) :
    after.rest.length < s.rest.length := by
  have hne : s.rest ≠ [] := by simp [hrest]
  rw [lexeme, hrest] at h
  simp only at h
  split at h
  case isTrue =>
    obtain ⟨-, rfl⟩ := Prod.mk.inj h
    apply advance_rest_length_lt s hne
    simp [hrest, hblank]
  case isFalse =>
    split at h
    case isTrue hname =>
      obtain ⟨-, rfl⟩ := Prod.mk.inj h
      apply advance_rest_length_lt s hne
      have hcontinues : continuesName c = true := by
        simp only [startsName, continuesName, Char.isAlphanum, Bool.or_eq_true] at hname ⊢
        exact hname.imp_left Or.inl
      simp [hrest, hcontinues]
    case isFalse =>
      unfold symbol at h
      split at h
      case h_1 op hop =>
        obtain ⟨-, rfl⟩ := Prod.mk.inj h
        exact advance_rest_length_lt s hne
          (List.length_pos_iff.mpr (Operator.characters_ne_nil op))
      case h_2 => simp at h

/-- Delivering a piece leaves fewer characters unread. -/
theorem next_rest_length_lt
    {s after : Scanner} {content : Content}
    (h : s.next = (.ok (.piece content), after)) :
    after.rest.length < s.rest.length := by
  cases hrest : s.skipBlanks.rest with
  | nil => simp [next, lexeme, hrest] at h
  | cons c rest =>
      have hlt :=
        lexeme_rest_length_lt hrest (isBlank_eq_false_of_skipBlanks hrest) h
      have hle := s.skipBlanks_rest_length_le
      omega

/-- The pieces up to the finish or the first error, and that error. -/
def pieces (s : Scanner) : List Content × Option SourceError :=
  match _hnext : s.next with
  | (.error e, _) => ([], some e)
  | (.ok .finish, _) => ([], none)
  | (.ok (.piece content), after) =>
      let (contents, error) := after.pieces
      (content :: contents, error)
termination_by s.rest.length
decreasing_by exact next_rest_length_lt _hnext

/-- The pieces of a whole text, or the first error in it. -/
def scan (text : String) : Except SourceError (List Content) :=
  match (ofString text).pieces with
  | (_, some e) => .error e
  | (contents, none) => .ok contents

end Scanner

end LayoutRules
