import LayoutRules.Proofs.Scanner.Surroundings
import LayoutRules.Proofs.Source.Agreement
import LayoutRules.Proofs.Tree.Canonical

/-!
# Contents written out again

The pieces of a text are written out again, each by its own text, with any
blanks around them and at least one between two. The result need not be the text
that was scanned: signs, units and zeros of a number may be gone. Its pieces are
the same, down to the bits of their numbers.
-/

namespace LayoutRules
namespace Scanner

/-- A content that has a lexeme is written by one of its lexemes. -/
theorem Lexeme.characters
    {lexeme : List Char} {content : Content}
    (h : Lexeme lexeme content) :
    Lexeme content.characters content := by
  cases h with
  | @name text hname hne =>
      rw [Content.characters_attr, String.toList_ofList]
      exact .name hname hne
  | absent => exact .absent
  | symbol op =>
      rw [Content.characters_operator]
      exact .symbol op
  | literal hstarts hspelling =>
      have hvalue : content.category.isValue = true := by
        cases hspelling <;> rfl
      have hlegal : content.Legal :=
        Content.legal_of_spelling
          (Value.spelling_iff_lexeme.mpr ⟨.literal hstarts hspelling, hvalue⟩)
      exact (Value.spelling_iff_lexeme.mp hlegal.spelling).1

/-- Every piece of a text has a lexeme there. -/
theorem exists_lexeme_of_mem_pieces
    (s : Scanner) :
    ∀ content ∈ s.pieces.1, ∃ lexeme, Lexeme lexeme content := by
  fun_induction pieces s with
  | case1 s error after hnext => exact List.forall_mem_nil _
  | case2 s after hnext => exact List.forall_mem_nil _
  | case3 s content after hnext contents error hpieces ih =>
      rw [hpieces] at ih
      exact List.forall_mem_cons.mpr ⟨exists_lexeme_of_next hnext, ih⟩

/-- Contents written out in turn, each behind its blanks, and the blanks at the end. -/
def printed : List (List Char × Content) → List Char → List Char
  | [], back => back
  | (blanks, content) :: rest, back => blanks ++ (content.characters ++ printed rest back)

section Printed

variable {spaced : List (List Char × Content)} {back : List Char}

/-- Contents with a blank in front of each are written out behind a blank. -/
theorem stops_printed
    (hblanks : ∀ piece ∈ spaced, Text.Within Text.isBlank piece.1)
    (hgaps : ∀ piece ∈ spaced, piece.1 ≠ [])
    (hback : Text.Within Text.isBlank back) :
    Text.Stops isSolid (printed spaced back) := by
  cases spaced with
  | nil => exact stops_isSolid_of_blanks hback
  | cons piece rest =>
      obtain ⟨blanks, content⟩ := piece
      obtain ⟨hfirst, -⟩ := List.forall_mem_cons.mp hblanks
      obtain ⟨hgap, -⟩ := List.forall_mem_cons.mp hgaps
      obtain ⟨c, tail, rfl⟩ := List.exists_cons_of_ne_nil hgap
      have hc : Text.isBlank c = true := (Text.within_cons.mp hfirst).1
      exact Text.stops_cons.mpr (by simp [isSolid, hc])

/-- Contents that have lexemes are scanned again where they are written out. -/
theorem pieces_printed
    (hlexemes : ∀ piece ∈ spaced, ∃ lexeme, Lexeme lexeme piece.2)
    (hblanks : ∀ piece ∈ spaced, Text.Within Text.isBlank piece.1)
    (hgaps : ∀ piece ∈ spaced.tail, piece.1 ≠ [])
    (hback : Text.Within Text.isBlank back)
    (position : Nat) :
    pieces ⟨printed spaced back, position⟩ = (spaced.map Prod.snd, none) := by
  induction spaced generalizing position with
  | nil => exact pieces_of_finish (next_of_finish hback rfl)
  | cons piece rest ih =>
      obtain ⟨blanks, content⟩ := piece
      obtain ⟨⟨lexeme, hlexeme⟩, hothers⟩ := List.forall_mem_cons.mp hlexemes
      obtain ⟨hfirst, hbehind⟩ := List.forall_mem_cons.mp hblanks
      have hstops : Text.Stops isSolid (printed rest back) :=
        stops_printed hbehind hgaps hback
      have hnext :
          next ⟨printed ((blanks, content) :: rest) back, position⟩ =
            (.ok (.piece content),
              ⟨printed rest back, position + blanks.length + content.characters.length⟩) :=
        next_of_lexeme hfirst hlexeme.characters (stops_continues content hstops) rfl
      have hrest :=
        ih hothers hbehind (fun piece hpiece => hgaps piece (List.mem_of_mem_tail hpiece))
      rw [pieces_of_piece hnext, hrest, List.map_cons]

/--
The pieces of a text are scanned again where they are written out by their own
texts, whatever blanks are in front of them and behind the last one, if there
is one between any two.
-/
theorem scan_printed
    {text : String}
    (htext : scan text = .ok (spaced.map Prod.snd))
    (hblanks : ∀ piece ∈ spaced, Text.Within Text.isBlank piece.1)
    (hgaps : ∀ piece ∈ spaced.tail, piece.1 ≠ [])
    (hback : Text.Within Text.isBlank back) :
    scan (String.ofList (printed spaced back)) = .ok (spaced.map Prod.snd) := by
  have hlexemes := exists_lexeme_of_mem_pieces (ofString text)
  rw [pieces_of_scan_eq_ok htext, List.forall_mem_map] at hlexemes
  have hpieces :
      (ofString (String.ofList (printed spaced back))).pieces =
        (spaced.map Prod.snd, none) := by
    rw [ofString, String.toList_ofList]
    exact pieces_printed hlexemes hblanks hgaps hback 0
  exact scan_of_pieces hpieces

/-- The unit px, a plus sign and idle zeros are gone, a minus sign and a coordinate are kept. -/
theorem scan_printed_without_units :
    let three : Content := .amount .absolute (Binary64.ofDecimal false ⟨3, 0⟩)
    let zero : Content := .amount .own (Binary64.ofDecimal true ⟨0, 0⟩)
    let pair : Content := .coordinate .height "1٣,+.5%h"
    let contents : List Content := [.attr "w", .operator .add, three, zero, pair]
    scan "w+=+003.0px -.0% 1٣,+.5%h" = .ok contents ∧
      scan "w\u2003+= 3 \n-0%\t1٣,+.5%h " = .ok contents := by
  intro three zero pair contents
  let spaced : List (List Char × Content) :=
    [([], .attr "w"), (['\u2003'], .operator .add), ([' '], three), ([' ', '\n'], zero),
      (['\t'], pair)]
  have htext : scan "w+=+003.0px -.0% 1٣,+.5%h" = .ok (spaced.map Prod.snd) := by
    decide +kernel
  have hprinted :
      String.ofList (printed spaced [' ']) = "w\u2003+= 3 \n-0%\t1٣,+.5%h " := by
    decide +kernel
  refine ⟨htext, ?_⟩
  rw [← hprinted]
  exact scan_printed htext (by decide) (by decide) (by decide)

end Printed

end Scanner
end LayoutRules
