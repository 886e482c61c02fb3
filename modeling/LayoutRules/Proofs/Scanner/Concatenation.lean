import LayoutRules.Proofs.Scanner.Surroundings
import LayoutRules.Proofs.Source.Agreement

/-!
# Texts behind one another

A blank ends every lexeme, so the text behind it has no part in how the text in
front of it is scanned. An error in front hides whatever is behind; otherwise
the pieces of both texts follow one another, and an error behind is the error
of the second text at its place in the whole.
-/

namespace LayoutRules

@[simp] theorem SourceError.shift_zero :
    SourceError.shift 0 = id := by
  funext error
  cases error <;> rfl

namespace Scanner

/-- Scanners that are in step have the same pieces, and the same error a few characters apart. -/
theorem Surrounds.pieces_eq
    {count : Nat} {s t : Scanner}
    (h : Surrounds count s t) :
    s.pieces = (t.pieces.1, t.pieces.2.map (SourceError.shift count)) := by
  fun_induction pieces t generalizing s with
  | case1 t error after hnext =>
      obtain ⟨hanswer, -⟩ := h.next
      rw [hnext] at hanswer
      exact pieces_of_error (Prod.ext hanswer rfl)
  | case2 t after hnext =>
      obtain ⟨hanswer, -⟩ := h.next
      rw [hnext] at hanswer
      exact pieces_of_finish (Prod.ext hanswer rfl)
  | case3 t content after hnext contents error hpieces ih =>
      obtain ⟨hanswer, hafter⟩ := h.next
      rw [hnext] at hanswer hafter
      rw [pieces_of_piece (Prod.ext hanswer rfl), ih hafter, hpieces]

section Behind

variable {back : List Char}

/-- What is taken leaves the end of the text where it is. -/
theorem Takes.position_add_length
    {s after : Scanner} {answer : Except SourceError Token}
    (h : Takes s answer after) :
    after.position + after.rest.length = s.position + s.rest.length := by
  cases h with
  | finish hblanks hrest => simp [hrest]
  | piece hblanks hlexeme hstops hrest =>
      simp [hrest]
      omega
  | malformed hblanks hliteral hstarts hcontent hstops hrest =>
      simp [hrest]
      omega
  | unexpected hblanks hsolid hliteral hname hsymbol hrest =>
      simp [hrest]
      omega

/-- The scanner with more text behind its own. -/
def followedBy (s : Scanner) (back : List Char) : Scanner :=
  ⟨s.rest ++ back, s.position⟩

/-- A piece or an error is taken from a text whether or not a blank and more are behind it. -/
theorem Takes.followedBy
    {s after : Scanner} {answer : Except SourceError Token}
    (h : Takes s answer after)
    (hanswer : answer ≠ .ok .finish)
    (hback : Text.Stops isSolid back) :
    Takes (s.followedBy back) answer (after.followedBy back) := by
  have htakes :
      Takes (s.followedBy back) (answer.mapError (SourceError.shift 0)) (after.followedBy back) :=
    h.inside hanswer Text.within_nil hback rfl rfl
  cases answer with
  | error error =>
      rw [Except.mapError, SourceError.shift_zero] at htakes
      exact htakes
  | ok token => exact htakes

/-- Pieces with those of another text behind them, which an error in front hides. -/
def chain :
    List Content × Option SourceError →
    List Content × Option SourceError →
    List Content × Option SourceError
  | (contents, some error), _ => (contents, some error)
  | (contents, none), (others, error) => (contents ++ others, error)

theorem chain_cons
    (content : Content)
    (first second : List Content × Option SourceError) :
    chain (content :: first.1, first.2) second =
      (content :: (chain first second).1, (chain first second).2) := by
  obtain ⟨contents, _ | error⟩ := first <;> rfl

/-- The text behind a blank is scanned from the end of the text in front of it. -/
theorem pieces_followedBy
    (s : Scanner)
    (hback : Text.Stops isSolid back) :
    (s.followedBy back).pieces =
      chain s.pieces (pieces ⟨back, s.position + s.rest.length⟩) := by
  fun_induction pieces s with
  | case1 s error after hnext =>
      have htakes := takes_next s
      rw [hnext] at htakes
      have hfollowed := htakes.followedBy (by simp) hback
      exact pieces_of_error hfollowed.next_eq
  | case2 s after hnext =>
      have htakes := takes_next s
      rw [hnext] at htakes
      -- Nothing but blanks is left in front, and they are blanks in front of the text behind.
      cases htakes with
      | finish hblanks hrest =>
          have hsurrounds :
              Surrounds 0 (s.followedBy back) ⟨back, s.position + s.rest.length⟩ :=
            .around (hrest ▸ hblanks) Text.within_nil
              (by rw [List.append_nil]; rfl) rfl
          rw [hsurrounds.pieces_eq]
          simp [chain]
  | case3 s content after hnext contents error hpieces ih =>
      have htakes := takes_next s
      rw [hnext] at htakes
      have hfollowed := htakes.followedBy (by simp) hback
      rw [pieces_of_piece hfollowed.next_eq, ih, htakes.position_add_length, hpieces]
      exact (chain_cons content (contents, error) _).symm

end Behind

/-- The pieces of a text with a blank and another text behind it. -/
theorem pieces_push_append
    (first second : String)
    {c : Char}
    (hc : Text.isBlank c = true) :
    (ofString (first.push c ++ second)).pieces =
      chain (ofString first).pieces
        ((ofString second).pieces.1,
          (ofString second).pieces.2.map (SourceError.shift (first.length + 1))) := by
  have htext :
      ofString (first.push c ++ second) = (ofString first).followedBy (c :: second.toList) := by
    simp [ofString, ofList, followedBy]
  have hback : Text.Stops isSolid (c :: second.toList) := by
    simp [isSolid, hc]
  have hbehind :
      Surrounds (first.length + 1) ⟨c :: second.toList, 0 + first.toList.length⟩
        (ofString second) :=
    .around (Text.within_cons.mpr ⟨hc, Text.within_nil⟩) Text.within_nil
      (by simp [ofString, ofList]) (by simp [ofString, ofList, String.length_toList])
  rw [htext, pieces_followedBy _ hback, ← hbehind.pieces_eq]
  rfl

/--
Scanning goes over a blank between two texts as if each were scanned alone. If
the first text is all pieces, the whole has those of both texts or, if the
second one has an error, that error, further on by the first text and the blank.
An error in the first text is the error of the whole, where it is.
-/
theorem scan_across_blank
    (first second : String)
    {c : Char}
    (hc : Text.isBlank c = true) :
    (∀ contents, scan first = .ok contents →
      (∀ others, scan second = .ok others →
        scan (first.push c ++ second) = .ok (contents ++ others)) ∧
      (∀ error, scan second = .error error →
        scan (first.push c ++ second) = .error (error.shift (first.length + 1)))) ∧
    (∀ error, scan first = .error error →
      scan (first.push c ++ second) = .error error) := by
  have hwhole := pieces_push_append first second hc
  refine ⟨fun contents hfirst => ⟨fun others hsecond => ?_, fun error hsecond => ?_⟩, ?_⟩
  · rw [pieces_of_scan_eq_ok hfirst, pieces_of_scan_eq_ok hsecond] at hwhole
    exact scan_of_pieces hwhole
  · obtain ⟨others, hpieces⟩ := exists_pieces_of_scan_eq_error hsecond
    rw [pieces_of_scan_eq_ok hfirst, hpieces] at hwhole
    exact scan_of_pieces hwhole
  · intro error hfirst
    obtain ⟨contents, hpieces⟩ := exists_pieces_of_scan_eq_error hfirst
    rw [hpieces] at hwhole
    exact scan_of_pieces hwhole

/-- A point is not joined to the mark behind the blank, nor a sign to the equals sign. -/
theorem scan_across_blank_half_lexemes :
    let front : List Content :=
      [.attr "w", .amount .absolute (Binary64.ofDecimal false ⟨1, 0⟩)]
    let back : List Content := [.amount .width (Binary64.ofDecimal false ⟨2, 0⟩)]
    Text.isBlank '\u2003' = true ∧
      scan "w 1." = .ok front ∧
      scan ("w 1.".push '\u2003' ++ "2%w") = .ok (front ++ back) ∧
      scan ("w 1.".push '\u2003' ++ "%w") = .error (.unexpectedCharacter '%' 5) ∧
      scan ("w +".push '\u2003' ++ "=") = .error (.unexpectedCharacter '+' 2) := by
  intro front back
  have hblank : Text.isBlank '\u2003' = true := by decide
  have hfront : scan "w 1." = .ok front := by decide +kernel
  have hback : scan "2%w" = .ok back := by decide +kernel
  have hmark : scan "%w" = .error (.unexpectedCharacter '%' 0) := by decide +kernel
  have hsign : scan "w +" = .error (.unexpectedCharacter '+' 2) := by decide +kernel
  exact ⟨hblank, hfront,
    ((scan_across_blank "w 1." "2%w" hblank).1 front hfront).1 back hback,
    ((scan_across_blank "w 1." "%w" hblank).1 front hfront).2 _ hmark,
    (scan_across_blank "w +" "=" hblank).2 _ hsign⟩

end Scanner

end LayoutRules
