import LayoutRules.Proofs.Scanner.Lexeme
import LayoutRules.Proofs.Source.Answers
import Mathlib.Tactic.Choose

/-!
# Requests tile the text

Whatever the answers, the requests to one scanner go through its text from
the left to the right: each skips the blanks at its position and consumes the
characters of its answer behind them. What they skip and consume makes up the
text as far as it is read.

The invariant is that the unread characters are those of the text behind the
scanner's position.
-/

namespace LayoutRules
namespace Scanner

/-- The characters of a text from one position to another. -/
def between
    (text : List Char)
    (start stop : Nat) :
    List Char :=
  (text.take stop).drop start

/-- A run of a class of characters that goes on as far as it can. -/
structure MaximalRun
    (p : Char → Bool)
    (text : List Char)
    (start stop : Nat) :
    Prop where
  ordered : start ≤ stop
  bounded : stop ≤ text.length
  within : Text.Within p (between text start stop)
  maximal : ∀ c ∈ text[stop]?, p c = false

/-- The lexeme of a content stands between two positions of a text. -/
def LexemeAt
    (text : List Char)
    (start stop : Nat) :
    Content → Prop
  | .attr name =>
      MaximalRun continuesName text start stop ∧
      between text start stop = name.toList ∧
      name ≠ "nil"
  | .nil =>
      MaximalRun continuesName text start stop ∧
      between text start stop = "nil".toList
  | .amount basis value =>
      MaximalRun isSolid text start stop ∧
      Literal.Spelling (between text start stop) (.amount basis value)
  | .coordinate basis coordinate =>
      MaximalRun isSolid text start stop ∧
      between text start stop = coordinate.toList ∧
      Literal.Spelling (between text start stop) (.coordinate basis coordinate)
  | .operator op =>
      between text start stop = op.characters

/-- What an answer says of the text from the end of the blanks to the scanner's new position. -/
def Tile
    (text : List Char)
    (gap stop : Nat) :
    Except SourceError Token → Prop
  | .ok .finish =>
      gap = text.length ∧ stop = text.length
  | .ok (.piece content) =>
      gap < stop ∧ stop ≤ text.length ∧ LexemeAt text gap stop content
  | .error (.malformedLiteral literal position) =>
      position = gap ∧ gap < stop ∧
      MaximalRun isSolid text gap stop ∧
      literal.toList = between text gap stop
  | .error (.unexpectedCharacter c position) =>
      position = gap ∧ stop = gap ∧ text[gap]? = some c
  | .error .exhausted => False
  | .error (.afterFinish _ _) => False

section Tiling

variable {text : List Char} {s : Scanner}

/-- The unread characters are those of the text behind the position. -/
def Reads (text : List Char) (s : Scanner) : Prop :=
  ∃ front, text = front ++ s.rest ∧ s.position = front.length

theorem reads_ofList
    (text : List Char) :
    Reads text (ofList text) :=
  ⟨[], rfl, rfl⟩

theorem between_append
    (front run rest : List Char) :
    between (front ++ (run ++ rest)) front.length (front.length + run.length) = run := by
  rw [between, ← List.append_assoc, ← List.length_append, List.take_left, List.drop_left]

/-- A run with the text in front of it and behind it. -/
theorem maximalRun_append
    {p : Char → Bool} {run rest : List Char}
    (front : List Char)
    (hrun : Text.Within p run)
    (hrest : Text.Stops p rest) :
    MaximalRun p (front ++ (run ++ rest)) front.length (front.length + run.length) where
  ordered := Nat.le_add_right _ _
  bounded := by simp
  within := by rw [between_append]; exact hrun
  maximal := by
    intro c hc
    apply hrest
    rw [List.head?_eq_getElem?]
    simpa [List.getElem?_append_right] using hc

/-- Two neighbouring parts of a text make up the part that they cover. -/
theorem take_append_between
    {start stop : Nat}
    (text : List Char)
    (h : start ≤ stop) :
    text.take start ++ between text start stop = text.take stop := by
  calc
    text.take start ++ between text start stop
      = (text.take stop).take start ++ (text.take stop).drop start := by
        rw [List.take_take, Nat.min_eq_left h, between]
    _ = text.take stop := List.take_append_drop start (text.take stop)

/-- The lexeme of a content with the text in front of it and behind it. -/
theorem lexemeAt_append
    {lexeme rest : List Char} {content : Content}
    (front : List Char)
    (hlexeme : Lexeme lexeme content)
    (hstops : Text.Stops (continues content) rest) :
    LexemeAt (front ++ (lexeme ++ rest)) front.length (front.length + lexeme.length)
      content := by
  have hbetween := between_append front lexeme rest
  cases hlexeme with
  | name hname hne =>
      refine ⟨maximalRun_append front hname.within hstops, ?_, ?_⟩
      · rw [hbetween, String.toList_ofList]
      · intro h
        apply hne
        rw [← String.toList_ofList (l := lexeme), h]
        rfl
  | absent =>
      refine ⟨maximalRun_append front ?_ hstops, hbetween⟩
      simp [continuesName]
  | symbol op => exact hbetween
  | literal hstarts hspelling =>
      have hsolid : Text.Within isSolid lexeme := hspelling.within
      cases hspelling with
      | amount hcomponent hdenotes =>
          refine ⟨maximalRun_append front hsolid hstops, ?_⟩
          rw [hbetween]
          exact Literal.Spelling.amount hcomponent hdenotes
      | coordinate hfirst hsecond hjoint =>
          refine ⟨maximalRun_append front hsolid hstops, ?_, ?_⟩
          · rw [hbetween, String.toList_ofList]
          · rw [hbetween]
            exact Literal.Spelling.coordinate hfirst hsecond hjoint

theorem Lexeme.ne_nil
    {lexeme : List Char} {content : Content}
    (h : Lexeme lexeme content) :
    lexeme ≠ [] := by
  cases h with
  | name hname hne =>
      obtain ⟨c, tail, rfl, -⟩ := hname
      exact List.cons_ne_nil c tail
  | absent => exact List.cons_ne_nil _ _
  | symbol op => exact op.characters_ne_nil
  | literal hstarts hspelling =>
      rintro rfl
      cases hstarts

/-- A literal begins with a solid character. -/
theorem stops_isBlank_of_startsIn
    {literal : List Char}
    (rest : List Char)
    (hliteral : Text.Within isSolid literal)
    (hstarts : Literal.startsIn literal = true) :
    Text.Stops Text.isBlank (literal ++ rest) := by
  cases literal with
  | nil => cases hstarts
  | cons c tail => simpa [isSolid] using (Text.within_cons.mp hliteral).1

/-- A request skips a maximal run of blanks and consumes what its answer says. -/
theorem Takes.tile
    {s' : Scanner} {answer : Except SourceError Token}
    (h : Takes s answer s')
    (hreads : Reads text s) :
    ∃ gap,
      MaximalRun Text.isBlank text s.position gap ∧
      Tile text gap s'.position answer ∧
      Reads text s' := by
  obtain ⟨front, rfl, hposition⟩ := hreads
  rw [hposition]
  cases h with
  | @finish blanks hblanks hrest =>
      subst hrest
      have hrun := maximalRun_append front hblanks Text.stops_nil
      rw [List.append_nil] at hrun
      refine ⟨front.length + s.rest.length, hrun, ?_, front ++ s.rest, ?_, ?_⟩
      · simp [Tile, hposition]
      · simp
      · simp [hposition]
  | @piece blanks lexeme rest content hblanks hlexeme hstops hrest =>
      have hrun := maximalRun_append front hblanks (hlexeme.stops_isBlank rest)
      have hat := lexemeAt_append (front ++ blanks) hlexeme hstops
      have hpos := List.length_pos_iff.mpr hlexeme.ne_nil
      rw [← hrest] at hrun
      rw [List.length_append, List.append_assoc, ← hrest] at hat
      refine ⟨front.length + blanks.length, hrun, ?_, front ++ blanks ++ lexeme, ?_, ?_⟩
      · rw [hposition]
        refine ⟨Nat.lt_add_of_pos_right hpos, ?_, hat⟩
        simp [hrest]
        omega
      · simp [hrest]
      · simp [hposition, Nat.add_assoc]
  | @malformed blanks literal rest hblanks hliteral hstarts hcontent hstops hrest =>
      have hrun := maximalRun_append front hblanks
        (stops_isBlank_of_startsIn rest hliteral hstarts)
      have hsolid := maximalRun_append (front ++ blanks) hliteral hstops
      have hbetween := between_append (front ++ blanks) literal rest
      have hpos : 0 < literal.length := by
        rw [List.length_pos_iff]
        rintro rfl
        cases hstarts
      rw [← hrest] at hrun
      rw [List.length_append, List.append_assoc, ← hrest] at hsolid hbetween
      refine ⟨front.length + blanks.length, hrun, ?_, front ++ blanks ++ literal, ?_, ?_⟩
      · rw [hposition]
        refine ⟨rfl, Nat.lt_add_of_pos_right hpos, hsolid, ?_⟩
        rw [hbetween, String.toList_ofList]
      · simp [hrest]
      · simp [hposition, Nat.add_assoc]
  | @unexpected blanks rest c hblanks hsolid hliteral hname hsymbol hrest =>
      have hc : Text.Stops Text.isBlank (c :: rest) := by simpa [isSolid] using hsolid
      have hrun := maximalRun_append front hblanks hc
      rw [← hrest] at hrun
      refine ⟨front.length + blanks.length, hrun, ?_, front ++ blanks, ?_, ?_⟩
      · rw [hposition]
        refine ⟨rfl, rfl, ?_⟩
        rw [hrest, ← List.append_assoc, ← List.length_append]
        simp
      · simp [hrest]
      · simp [hposition]

/-- Every answer leaves a scanner within its text. -/
theorem reads_after
    (text : List Char)
    (count : Nat) :
    Reads text (Source.after (ofList text) count) := by
  induction count with
  | zero => exact reads_ofList text
  | succ count ih =>
      obtain ⟨gap, -, -, hreads⟩ :=
        (takes_next (Source.after (ofList text) count)).tile ih
      exact hreads

/-- What an answer consumes does not end before it begins. -/
theorem Tile.le
    {gap stop : Nat} {answer : Except SourceError Token}
    (h : Tile text gap stop answer) :
    gap ≤ stop := by
  unfold Tile at h
  split at h
  · exact h.1.trans_le h.2.ge
  · exact h.1.le
  · exact h.2.1.le
  · exact h.2.1.ge
  · exact h.elim
  · exact h.elim

/-- Parts that follow one another from the start of a text make it up as far as they go. -/
theorem flatMap_between
    {position gap : Nat → Nat}
    (text : List Char)
    (hstart : position 0 = 0)
    (hgap : ∀ i, position i ≤ gap i)
    (hstop : ∀ i, gap i ≤ position (i + 1))
    (count : Nat) :
    ((List.range count).flatMap fun i =>
      between text (position i) (gap i) ++ between text (gap i) (position (i + 1))) =
      text.take (position count) := by
  induction count with
  | zero => simp [hstart]
  | succ count ih =>
      rw [List.range_succ, List.flatMap_append, ih, List.flatMap_singleton, ← List.append_assoc,
        take_append_between text (hgap count), take_append_between text (hstop count)]

end Tiling

/--
The requests to a scanner tile its text: each skips a maximal run of blanks
and then consumes what its answer says, and the parts that are skipped and
consumed, in the order of the requests, are the text as far as it is read.
-/
theorem requests_tile_text
    (text : String) :
    let position (i : Nat) : Nat := (Source.after (ofString text) i).position
    ∃ gap : Nat → Nat,
      (∀ i,
        MaximalRun Text.isBlank text.toList (position i) (gap i) ∧
        Tile text.toList (gap i) (position (i + 1)) (Source.answer (ofString text) i)) ∧
      ∀ count,
        ((List.range count).flatMap fun i =>
          between text.toList (position i) (gap i) ++
            between text.toList (gap i) (position (i + 1))) =
          text.toList.take (position count) := by
  intro position
  have hstep (i : Nat) :
      ∃ gap,
        MaximalRun Text.isBlank text.toList (position i) gap ∧
        Tile text.toList gap (position (i + 1)) (Source.answer (ofString text) i) := by
    obtain ⟨gap, hblanks, htile, -⟩ :=
      (takes_next (Source.after (ofString text) i)).tile (reads_after text.toList i)
    exact ⟨gap, hblanks, htile⟩
  choose gap hblanks htile using hstep
  refine ⟨gap, fun i => ⟨hblanks i, htile i⟩, ?_⟩
  exact flatMap_between text.toList rfl (fun i => (hblanks i).ordered) (fun i => (htile i).le)

end Scanner
end LayoutRules
