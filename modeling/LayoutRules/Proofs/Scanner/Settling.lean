import LayoutRules.Proofs.Scanner.Surroundings
import LayoutRules.Proofs.Source.Agreement

/-!
# Scanners come to rest

Nothing in a scan bounds the number of its requests but the text. Each request
moves the scanner on, or its answer is the last one that the text has: the
finish behind all characters, or a character that begins no lexeme, at which
the scanner then stands and stays. So the last answer comes after as many
requests as there are characters at the latest, and is repeated ever after.
-/

namespace LayoutRules
namespace Scanner

/-- The last answers to a text, each with the position at which it leaves the scanner. -/
inductive Terminal (text : List Char) : Except SourceError Token → Nat → Prop
  | finish : Terminal text (.ok .finish) text.length
  | unexpected
      {c : Char} {position : Nat}
      (h : text[position]? = some c) :
      Terminal text (.error (.unexpectedCharacter c position)) position

section Steps

variable {text : List Char} {s after : Scanner} {answer : Except SourceError Token}

/-- What consumes no character is a last answer. -/
theorem Tile.terminal_or_lt
    {gap stop : Nat}
    (h : Tile text gap stop answer) :
    Terminal text answer stop ∨ gap < stop := by
  unfold Tile at h
  split at h
  · obtain ⟨-, rfl⟩ := h
    exact Or.inl .finish
  · exact Or.inr h.1
  · exact Or.inr h.2.1
  · obtain ⟨rfl, rfl, hc⟩ := h
    exact Or.inl (.unexpected hc)
  · exact h.elim
  · exact h.elim

theorem Takes.terminal_or_position_lt
    (h : Takes s answer after)
    (hreads : Reads text s) :
    Terminal text answer after.position ∨ s.position < after.position := by
  obtain ⟨gap, hblanks, htile, -⟩ := h.tile hreads
  exact htile.terminal_or_lt.imp_right hblanks.ordered.trans_lt

theorem Takes.position_le
    (h : Takes s answer after)
    (hreads : Reads text s) :
    s.position ≤ after.position := by
  obtain ⟨gap, hblanks, htile, -⟩ := h.tile hreads
  exact hblanks.ordered.trans htile.le

theorem Reads.position_le
    (h : Reads text s) :
    s.position ≤ text.length := by
  obtain ⟨front, rfl, hposition⟩ := h
  rw [hposition, List.length_append]
  exact Nat.le_add_right _ _

/-- Behind a last answer the scanner gives it again and stays where it is. -/
theorem Takes.next_of_terminal
    {position : Nat}
    (h : Takes s answer after)
    (hterminal : Terminal text answer position) :
    after.next = (answer, after) := by
  cases h with
  | finish hblanks hrest => exact next_of_finish Text.within_nil rfl
  | piece hblanks hlexeme hstops hrest => cases hterminal
  | malformed hblanks hliteral hstarts hcontent hstops hrest => cases hterminal
  | @unexpected blanks rest c hblanks hsolid hliteral hname hsymbol hrest =>
      -- The blanks are behind the scanner now, and the character is where it was.
      have hagain : Takes ⟨c :: rest, s.position + blanks.length⟩ _ _ :=
        .unexpected Text.within_nil hsolid hliteral hname hsymbol rfl
      exact hagain.next_eq

end Steps

section Runs

variable (text : List Char)

theorem terminal_or_position_lt
    (index : Nat) :
    Terminal text (Source.answer (ofList text) index)
        (Source.after (ofList text) (index + 1)).position ∨
      (Source.after (ofList text) index).position <
        (Source.after (ofList text) (index + 1)).position :=
  (takes_next _).terminal_or_position_lt (reads_after text index)

theorem position_le_position
    {first index : Nat}
    (hindex : first ≤ index) :
    (Source.after (ofList text) first).position ≤
      (Source.after (ofList text) index).position := by
  induction index, hindex using Nat.le_induction with
  | base => exact le_rfl
  | succ index hle ih =>
      exact ih.trans ((takes_next _).position_le (reads_after text index))

/-- Up to any request a last answer has been given, or each one has moved the scanner on. -/
theorem exists_terminal_or_le_position
    (count : Nat) :
    (∃ first < count,
      Terminal text (Source.answer (ofList text) first)
        (Source.after (ofList text) (first + 1)).position) ∨
    count ≤ (Source.after (ofList text) count).position := by
  induction count with
  | zero => exact Or.inr (Nat.zero_le _)
  | succ count ih =>
      rcases ih with ⟨first, hfirst, hterminal⟩ | hle
      · exact Or.inl ⟨first, Nat.lt_succ_of_lt hfirst, hterminal⟩
      · rcases terminal_or_position_lt text count with hterminal | hlt
        · exact Or.inl ⟨count, Nat.lt_succ_self count, hterminal⟩
        · exact Or.inr (Nat.succ_le_of_lt (hle.trans_lt hlt))

/-- The scanner can be moved on as often only as its text has characters. -/
theorem exists_terminal :
    ∃ first ≤ text.length,
      Terminal text (Source.answer (ofList text) first)
        (Source.after (ofList text) (first + 1)).position := by
  rcases exists_terminal_or_le_position text (text.length + 1) with
    ⟨first, hfirst, hterminal⟩ | hle
  · exact ⟨first, Nat.le_of_lt_succ hfirst, hterminal⟩
  · have hbound := (reads_after text (text.length + 1)).position_le
    omega

variable {text}

/-- A last answer is given ever after by a scanner that no longer moves. -/
theorem rests_of_terminal
    {first index : Nat}
    (hterminal :
      Terminal text (Source.answer (ofList text) first)
        (Source.after (ofList text) (first + 1)).position)
    (hindex : first ≤ index) :
    Source.answer (ofList text) index = Source.answer (ofList text) first ∧
      Source.after (ofList text) (index + 1) = Source.after (ofList text) (first + 1) := by
  induction index, hindex using Nat.le_induction with
  | base => exact ⟨rfl, rfl⟩
  | succ index hle ih =>
      have hagain :
          Source.next (Source.after (ofList text) (first + 1)) =
            (Source.answer (ofList text) first, Source.after (ofList text) (first + 1)) :=
        (takes_next (Source.after (ofList text) first)).next_of_terminal hterminal
      have hnext := Source.next_after (ofList text) (index + 1)
      rw [ih.2, hagain] at hnext
      obtain ⟨hanswer, hafter⟩ := Prod.mk.inj hnext
      exact ⟨hanswer.symm, hafter.symm⟩

/-- No piece is a last answer, so there are no more pieces than characters. -/
theorem length_le_of_begins
    {contents : List Content}
    (h : Source.Begins (ofList text) contents) :
    contents.length ≤ text.length := by
  rcases exists_terminal_or_le_position text contents.length with
    ⟨first, hfirst, hterminal⟩ | hle
  · rw [h first contents[first] (List.getElem?_eq_getElem hfirst)] at hterminal
    cases hterminal
  · exact hle.trans (reads_after text contents.length).position_le

end Runs

/-- The loop over a text ends with its pieces, at the finish or at the first error. -/
theorem exists_scan
    (text : String) :
    ∃ contents,
      Source.Begins (ofString text) contents ∧
      ((scan text = .ok contents ∧
          Source.answer (ofString text) contents.length = .ok .finish) ∨
        ∃ error,
          scan text = .error error ∧
          Source.answer (ofString text) contents.length = .error error) := by
  rcases hpieces : (ofString text).pieces with ⟨contents, _ | error⟩
  · have hagree := agree_ofPieces hpieces 0
    refine ⟨contents, ?_, Or.inl ⟨scan_of_pieces hpieces, ?_⟩⟩
    · intro index content hcontent
      rw [hagree index]
      exact Queue.begins_ofPieces contents 0 index content hcontent
    · rw [hagree contents.length]
      exact Queue.answer_ofPieces_length contents 0
  · obtain ⟨hbegins, herror⟩ := answers_of_pieces_error hpieces
    exact ⟨contents, hbegins, Or.inr ⟨error, scan_of_pieces hpieces, herror⟩⟩

/--
Scanning settles. The loop over a text ends with at most as many pieces as the
text has characters. Whatever was answered before, each request has a last
answer or moves the scanner on; the position never falls and stays within the
text; a last answer is repeated by all later requests, which leave the scanner
where it is; and it comes after as many requests as there are characters at the
latest.
-/
theorem requests_settle
    (text : String) :
    let answer := Source.answer (ofString text)
    let after := Source.after (ofString text)
    let terminal (i : Nat) : Prop :=
      Terminal text.toList (answer i) (after (i + 1)).position
    (∃ contents : List Content,
      contents.length ≤ text.length ∧
      Source.Begins (ofString text) contents ∧
      ((scan text = .ok contents ∧ answer contents.length = .ok .finish) ∨
        ∃ error, scan text = .error error ∧ answer contents.length = .error error)) ∧
    (∀ i, terminal i ∨ (after i).position < (after (i + 1)).position) ∧
    (∀ i j, i ≤ j → (after i).position ≤ (after j).position) ∧
    (∀ i, (after i).position ≤ text.length) ∧
    (∀ i j, terminal i → i ≤ j → answer j = answer i ∧ after (j + 1) = after (i + 1)) ∧
    ∃ i ≤ text.length, terminal i := by
  intro answer after terminal
  obtain ⟨contents, hbegins, hscan⟩ := exists_scan text
  rw [← String.length_toList]
  refine ⟨⟨contents, length_le_of_begins hbegins, hbegins, hscan⟩,
    terminal_or_position_lt text.toList, ?_, ?_, ?_, exists_terminal text.toList⟩
  · intro i j hij
    exact position_le_position text.toList hij
  · intro i
    exact (reads_after text.toList i).position_le
  · intro i j hterminal hij
    exact rests_of_terminal hterminal hij

/-- A character that begins no lexeme is never passed, whatever is behind it. -/
theorem requests_settle_at_stray_character :
    let answer := Source.answer (ofString "x @ 1")
    let after := Source.after (ofString "x @ 1")
    answer 0 = .ok (.piece (.attr "x")) ∧
      Terminal "x @ 1".toList (answer 1) (after 2).position ∧
      ∀ j, 1 ≤ j →
        answer j = .error (.unexpectedCharacter '@' 2) ∧
        after (j + 1) = ⟨['@', ' ', '1'], 2⟩ := by
  intro answer after
  have hterminal : Terminal "x @ 1".toList (answer 1) (after 2).position :=
    .unexpected (by decide)
  refine ⟨rfl, hterminal, fun j hj => ?_⟩
  exact (requests_settle "x @ 1").2.2.2.2.1 1 j hterminal hj

end Scanner
end LayoutRules
