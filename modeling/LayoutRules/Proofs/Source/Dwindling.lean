import LayoutRules.Proofs.Rule.History
import LayoutRules.Proofs.Scanner.Tiling
import LayoutRules.Proofs.Source.Agreement

/-!
# Sources that run dry

A request to a source of a finite text or of finitely many tokens leaves the
source where it is or makes it smaller. No piece comes for nothing, and behind
the finish there is nothing but the finish, so what a source has delivered
before a finish is all that it ever delivers.
-/

namespace LayoutRules

namespace Source

variable {σ : Type} [Source σ]

/-- A source is smaller behind every request that moves it, and a finish is its last answer. -/
structure Dwindles (size : σ → Nat) : Prop where
  moves : ∀ source : σ, (next source).2 = source ∨ size (next source).2 < size source
  piece : ∀ (source : σ) (content : Content),
    (next source).1 = .ok (.piece content) → size (next source).2 < size source
  finish : ∀ source : σ,
    (next source).1 = .ok .finish → (next (next source).2).1 = .ok .finish

section Dwindling

variable {size : σ → Nat} {source : σ}

theorem Dwindles.size_le
    (h : Dwindles size)
    (source : σ) :
    size (next source).2 ≤ size source := by
  rcases h.moves source with hstays | hlt
  · rw [hstays]
  · exact hlt.le

/-- Behind a finish every answer is a finish. -/
theorem Dwindles.answer_eq_finish
    (h : Dwindles size)
    {first index : Nat}
    (hfirst : answer source first = .ok .finish)
    (hindex : first ≤ index) :
    answer source index = .ok .finish := by
  induction index, hindex using Nat.le_induction with
  | base => exact hfirst
  | succ index hle ih => exact h.finish (after source index) ih

/-- Once a finish has been delivered, nothing else is. -/
theorem Dwindles.answer_of_mem_delivered
    (h : Dwindles size)
    {count : Nat}
    (hmem : Token.finish ∈ delivered source count) :
    answer source count = .ok .finish := by
  induction count with
  | zero => cases hmem
  | succ count ih =>
      rw [delivered, List.mem_append] at hmem
      have hlast : answer source count = .ok .finish := by
        rcases hmem with hmem | hmem
        · exact ih hmem
        · cases hanswer : answer source count with
          | error error => simp [hanswer, Except.toOption] at hmem
          | ok token => simpa [hanswer, Except.toOption, eq_comm] using hmem
      exact h.answer_eq_finish hlast (Nat.le_succ count)

end Dwindling

end Source

namespace Scanner

/-- What is taken from a text leaves the scanner in its place or the text shorter. -/
theorem Takes.eq_or_rest_length_lt
    {s after : Scanner} {answer : Except SourceError Token}
    (h : Takes s answer after) :
    after = s ∨ after.rest.length < s.rest.length := by
  obtain ⟨text, position⟩ := s
  cases h with
  | @finish blanks hblanks hrest =>
      obtain rfl : text = blanks := hrest
      cases text with
      | nil => exact Or.inl rfl
      | cons c rest => exact Or.inr (Nat.succ_pos rest.length)
  | @piece blanks lexeme rest content hblanks hlexeme hstops hrest =>
      obtain rfl : text = blanks ++ (lexeme ++ rest) := hrest
      have hpos := List.length_pos_iff.mpr hlexeme.ne_nil
      refine Or.inr ?_
      simp only [List.length_append]
      omega
  | @malformed blanks literal rest hblanks hliteral hstarts hcontent hstops hrest =>
      obtain rfl : text = blanks ++ (literal ++ rest) := hrest
      cases literal with
      | nil => cases hstarts
      | cons c tail =>
          refine Or.inr ?_
          simp only [List.length_append, List.length_cons]
          omega
  | @unexpected blanks rest c hblanks hsolid hliteral hname hsymbol hrest =>
      obtain rfl : text = blanks ++ c :: rest := hrest
      -- The character is not consumed; only blanks in front of it may be.
      cases blanks with
      | nil => exact Or.inl rfl
      | cons blank blanks =>
          refine Or.inr ?_
          simp only [List.length_append, List.length_cons]
          omega

/-- A scanner has fewer characters to read behind every request that moves it. -/
theorem dwindles :
    Source.Dwindles fun s : Scanner => s.rest.length where
  moves s := (takes_next s).eq_or_rest_length_lt
  piece s content h := by
    have hnext : s.next = (.ok (.piece content), s.next.2) := Prod.ext h rfl
    exact next_rest_length_lt hnext
  finish s h := by
    have hnext : s.next = (.ok .finish, s.next.2) := Prod.ext h rfl
    exact congrArg Prod.fst (next_of_next_finish hnext)

end Scanner

namespace Queue

/-- A queue has fewer tokens behind every request that moves it. -/
theorem dwindles :
    Source.Dwindles fun queue : Queue => queue.pending.length where
  moves queue := by
    match queue with
    | ⟨[], position⟩ => exact Or.inl rfl
    | ⟨[.finish], position⟩ => exact Or.inr (Nat.lt_succ_self 0)
    | ⟨.finish :: extra :: rest, position⟩ =>
        exact Or.inr (Nat.lt_succ_of_lt (Nat.lt_succ_self rest.length))
    | ⟨.piece content :: rest, position⟩ => exact Or.inr (Nat.lt_succ_self rest.length)
  piece queue content h := by
    match queue, h with
    | ⟨.piece content :: rest, position⟩, h => exact Nat.lt_succ_self rest.length
    | ⟨.finish :: extra :: rest, position⟩, h => cases h
  finish queue h := by
    match queue, h with
    | ⟨[], position⟩, h => rfl
    | ⟨[.finish], position⟩, h => rfl
    | ⟨.finish :: extra :: rest, position⟩, h => cases h
    | ⟨.piece content :: rest, position⟩, h => cases h

end Queue

end LayoutRules
