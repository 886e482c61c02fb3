import LayoutRules.Proofs.Scanner.Tiling

/-!
# Blanks around a text

Blanks in front of a text and behind it change nothing of what a scanner
answers but the positions that its errors name, and these by as many
characters as stand in front. A scanner of the whole text and one of the text
without the blanks stay in step, until both have nothing left but blanks.
-/

namespace LayoutRules

/-- The error a number of characters further on. -/
def SourceError.shift (count : Nat) : SourceError → SourceError
  | .unexpectedCharacter character position => .unexpectedCharacter character (position + count)
  | .malformedLiteral literal position => .malformedLiteral literal (position + count)
  | .exhausted => .exhausted
  | .afterFinish found position => .afterFinish found position

namespace Scanner

section Blanks

variable {front back text rest : List Char}

theorem stops_of_blanks
    {p : Char → Bool}
    (hback : Text.Within Text.isBlank back)
    (hp : ∀ c, Text.isBlank c = true → p c = false) :
    Text.Stops p back := by
  have hstops := hback.stops_append (Text.stops_nil (p := p)) hp
  rwa [List.append_nil] at hstops

theorem stops_isSolid_of_blanks
    (hback : Text.Within Text.isBlank back) :
    Text.Stops isSolid back :=
  stops_of_blanks hback fun c hc => by simp [isSolid, hc]

/-- What begins with a blank goes on with no lexeme. -/
theorem stops_continues
    (content : Content)
    (hback : Text.Stops isSolid back) :
    Text.Stops (continues content) back := by
  intro c hc
  have hblank : Text.isBlank c = true := by simpa [isSolid] using hback c hc
  exact continues_eq_false_of_isBlank content hblank

/-- Solid characters in front of a text with a blank behind it are in front of the text. -/
theorem exists_append_of_solid
    (hfront : Text.Within isSolid front)
    (hback : Text.Stops isSolid back)
    (h : text ++ back = front ++ rest) :
    ∃ tail, text = front ++ tail := by
  rcases List.append_eq_append_iff.mp h with ⟨gap, rfl, rfl⟩ | ⟨tail, rfl, rfl⟩
  · -- What the front takes of the text behind would begin with that blank, and so it is nothing.
    cases gap with
    | nil => exact ⟨[], by simp⟩
    | cons c gap =>
        have hsolid := (Text.within_cons.mp (Text.within_append.mp hfront).2).1
        rw [List.cons_append, Text.stops_cons, hsolid] at hback
        cases hback
  · exact ⟨tail, rfl⟩

/-- A blank behind a text does not make it start a literal. -/
theorem startsIn_append_of_stops
    (hback : Text.Stops isSolid back)
    (h : Literal.startsIn text = false) :
    Literal.startsIn (text ++ back) = false := by
  by_contra hstarts
  rw [Bool.not_eq_false] at hstarts
  obtain ⟨sign, negative, c, rest, hsign, hopens, heq⟩ := Literal.startsIn_iff.mp hstarts
  have hsolid : Text.Within isSolid (sign ++ [c]) := by
    simp [isSolid_of_sign hsign, isSolid_of_opensNumber hopens]
  have hsplit : text ++ back = (sign ++ [c]) ++ rest := by simpa using heq
  obtain ⟨tail, rfl⟩ := exists_append_of_solid hsolid hback hsplit
  rw [List.append_assoc, List.singleton_append] at h
  have hliteral := Literal.startsIn_iff.mpr ⟨sign, negative, c, tail, hsign, hopens, rfl⟩
  rw [h] at hliteral
  cases hliteral

/-- A blank behind a text does not make it begin with a symbol. -/
theorem ofStart?_append_of_stops
    (hback : Text.Stops isSolid back)
    (h : Operator.ofStart? text = none) :
    Operator.ofStart? (text ++ back) = none := by
  cases hop : Operator.ofStart? (text ++ back) with
  | none => rfl
  | some op =>
      have hsolid : Text.Within isSolid op.characters := by
        cases op <;> simp [Operator.characters, isSolid] <;> decide
      obtain ⟨tail, rfl⟩ :=
        exists_append_of_solid hsolid hback (Operator.eq_append_of_ofStart? hop)
      rw [Operator.ofStart?_append] at h
      cases h

end Blanks

/-- What a request takes is what the scanner answers, and what it goes on with. -/
theorem Takes.next_eq
    {s after : Scanner} {answer : Except SourceError Token}
    (h : Takes s answer after) :
    s.next = (answer, after) := by
  cases h with
  | finish hblanks hrest => exact next_of_finish hblanks hrest
  | piece hblanks hlexeme hstops hrest => exact next_of_lexeme hblanks hlexeme hstops hrest
  | malformed hblanks hliteral hstarts hcontent hstops hrest =>
      rw [next_of_blanks hblanks (stops_isBlank_of_startsIn _ hliteral hstarts) hrest,
        lexeme_of_literal hstarts hliteral hstops rfl, hcontent]
      rfl
  | @unexpected blanks rest c hblanks hsolid hliteral hname hsymbol hrest =>
      have hblank : Text.Stops Text.isBlank (c :: rest) :=
        Text.stops_cons.mpr (by simpa [isSolid] using hsolid)
      rw [next_of_blanks hblanks hblank hrest, lexeme_cons rfl, hliteral, hname, symbol, hsymbol]
      rfl

/-- The first scanner has blanks around what the second one has, or both have blanks only. -/
inductive Surrounds (count : Nat) (s t : Scanner) : Prop
  | around
      {front back : List Char}
      (hfront : Text.Within Text.isBlank front)
      (hback : Text.Within Text.isBlank back)
      (hrest : s.rest = front ++ (t.rest ++ back))
      (hposition : s.position + front.length = t.position + count) :
      Surrounds count s t
  | spent
      (hs : Text.Within Text.isBlank s.rest)
      (ht : Text.Within Text.isBlank t.rest) :
      Surrounds count s t

section Surrounds

variable {count : Nat} {s t t' : Scanner} {answer : Except SourceError Token}

/-- A piece or an error is taken from a text with blanks in front and a blank behind as well. -/
theorem Takes.inside
    {front back : List Char}
    (h : Takes t answer t')
    (hanswer : answer ≠ .ok .finish)
    (hfront : Text.Within Text.isBlank front)
    (hback : Text.Stops isSolid back)
    (hrest : s.rest = front ++ (t.rest ++ back))
    (hposition : s.position + front.length = t.position + count) :
    Takes s (answer.mapError (SourceError.shift count))
      ⟨t'.rest ++ back, t'.position + count⟩ := by
  have hpositions (blanks : List Char) :
      s.position + (front ++ blanks).length = t.position + blanks.length + count := by
    rw [List.length_append]
    omega
  cases h with
  | finish hblanks htext => exact absurd rfl hanswer
  | @piece blanks lexeme rest content hblanks hlexeme hends htext =>
      have hsplit : s.rest = (front ++ blanks) ++ (lexeme ++ (rest ++ back)) := by
        simp [hrest, htext]
      have htakes :=
        Takes.piece (Text.within_append.mpr ⟨hfront, hblanks⟩) hlexeme
          (hends.append (stops_continues content hback)) hsplit
      rwa [hpositions, Nat.add_right_comm _ count] at htakes
  | @malformed blanks literal rest hblanks hliteral hstarts hcontent hends htext =>
      have hsplit : s.rest = (front ++ blanks) ++ (literal ++ (rest ++ back)) := by
        simp [hrest, htext]
      have htakes :=
        Takes.malformed (Text.within_append.mpr ⟨hfront, hblanks⟩) hliteral hstarts hcontent
          (hends.append hback) hsplit
      rwa [hpositions, Nat.add_right_comm _ count literal.length] at htakes
  | @unexpected blanks rest c hblanks hc hliteral hname hsymbol htext =>
      have hsplit : s.rest = (front ++ blanks) ++ c :: (rest ++ back) := by
        simp [hrest, htext]
      have htakes :=
        Takes.unexpected (Text.within_append.mpr ⟨hfront, hblanks⟩) hc
          (startsIn_append_of_stops hback hliteral) hname
          (ofStart?_append_of_stops hback hsymbol) hsplit
      rwa [hpositions] at htakes

/-- What is taken from a text is taken from it with blanks around it. -/
theorem Takes.exists_surrounding
    {front back : List Char}
    (h : Takes t answer t')
    (hfront : Text.Within Text.isBlank front)
    (hback : Text.Within Text.isBlank back)
    (hrest : s.rest = front ++ (t.rest ++ back))
    (hposition : s.position + front.length = t.position + count) :
    ∃ s',
      Takes s (answer.mapError (SourceError.shift count)) s' ∧ Surrounds count s' t' := by
  by_cases hanswer : answer = .ok .finish
  · subst hanswer
    cases h with
    | @finish blanks hblanks htext =>
        have hall : Text.Within Text.isBlank (front ++ (blanks ++ back)) := by
          simp [hfront, hblanks, hback]
        rw [htext] at hrest
        exact ⟨_, .finish hall hrest, .spent Text.within_nil Text.within_nil⟩
  · have hstops := stops_isSolid_of_blanks hback
    exact ⟨_, h.inside hanswer hfront hstops hrest hposition,
      .around Text.within_nil hback rfl rfl⟩

/-- Scanners that are in step answer alike, up to the positions in errors, and stay in step. -/
theorem Surrounds.next
    (h : Surrounds count s t) :
    s.next.1 = t.next.1.mapError (SourceError.shift count) ∧
      Surrounds count s.next.2 t.next.2 := by
  cases h with
  | around hfront hback hrest hposition =>
      obtain ⟨s', htakes, hsurrounds⟩ :=
        (takes_next t).exists_surrounding hfront hback hrest hposition
      rw [htakes.next_eq]
      exact ⟨rfl, hsurrounds⟩
  | spent hs ht =>
      rw [next_of_finish hs rfl, next_of_finish ht rfl]
      exact ⟨rfl, .spent Text.within_nil Text.within_nil⟩

theorem Surrounds.after
    (h : Surrounds count s t)
    (index : Nat) :
    Surrounds count (Source.after s index) (Source.after t index) := by
  induction index with
  | zero => exact h
  | succ index ih => exact ih.next.2

/-- Every answer is the same, up to the position in an error. -/
theorem Surrounds.answer_eq
    (h : Surrounds count s t)
    (index : Nat) :
    Source.answer s index = (Source.answer t index).mapError (SourceError.shift count) :=
  (h.after index).next.1

end Surrounds

/-- A text has blanks around its trimmed text, as many in front as it begins with. -/
theorem surrounds_trim
    (text : List Char) :
    Surrounds (text.takeWhile Text.isBlank).length (ofList text) (ofList (Text.trim text)) := by
  obtain ⟨back, hback, htext⟩ := Text.exists_trim text
  exact .around (Text.within_takeWhile Text.isBlank text) hback htext rfl

end Scanner
end LayoutRules
