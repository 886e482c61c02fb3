import LayoutRules.Proofs.Source.Answers

/-!
# The account of a queue

The answers of a queue account for its tokens in their order: each takes the
next token, or a misplaced finish together with the token behind it. A queue
counts its answers and not the tokens that they take, so the position in the
error about a misplaced finish is that of the finish only as long as no other
one has been met before. It falls short of the place in the list by the number
of errors that were answered until then.
-/

namespace LayoutRules

namespace Source

variable {σ : Type} [Source σ]

/-- A number of errors, with one more if the next answer is an error. -/
def countError (failed : Nat) : Except SourceError Token → Nat
  | .ok _ => failed
  | .error _ => failed + 1

/-- The number of errors among the first answers of a source. -/
def failures (source : σ) : Nat → Nat
  | 0 => 0
  | count + 1 => countError (failures source count) (answer source count)

end Source

namespace Queue

/-- The number of tokens that the first requests take from a list. -/
def taken (tokens : List Token) (count : Nat) : Nat :=
  tokens.length - (Source.after (ofList tokens) count).pending.length

/--
An answer takes the tokens of a list from one place to another, after some
requests have failed: a token, which is a finish only if it is the last one; a
misplaced finish and the token behind it; or nothing, once there is nothing.
-/
inductive Takes
    (tokens : List Token)
    (failed : Nat) :
    Nat → Except SourceError Token → Nat → Prop
  | token
      {index : Nat} {token : Token}
      (htoken : tokens[index]? = some token)
      (hlast : token = .finish → index + 1 = tokens.length) :
      Takes tokens failed index (.ok token) (index + 1)
  | misplaced
      {position : Nat} {extra : Token}
      (hfinish : tokens[position + failed]? = some .finish)
      (hextra : tokens[position + failed + 1]? = some extra) :
      Takes tokens failed (position + failed)
        (.error (.afterFinish extra.label position)) (position + failed + 2)
  | exhausted :
      Takes tokens failed tokens.length (.ok .finish) tokens.length

/-- What is not pending any more is as long as the numbers of answers and of errors say. -/
def Stands
    (tokens : List Token)
    (failed : Nat)
    (queue : Queue) :
    Prop :=
  ∃ front, tokens = front ++ queue.pending ∧ front.length = queue.position + failed

section Steps

variable {tokens rest : List Token} {failed position : Nat} {queue : Queue}

theorem stands_ofList
    (tokens : List Token) :
    Stands tokens 0 (ofList tokens) :=
  ⟨[], rfl, rfl⟩

theorem Stands.length_sub
    (h : Stands tokens failed queue) :
    tokens.length - queue.pending.length = queue.position + failed := by
  obtain ⟨front, rfl, hlength⟩ := h
  rw [List.length_append, Nat.add_sub_cancel, hlength]

theorem Stands.exhausted
    (h : Stands tokens failed ⟨[], position⟩) :
    Takes tokens failed (position + failed) (.ok .finish) (position + failed) := by
  obtain ⟨front, htokens, hlength⟩ := h
  rw [List.append_nil] at htokens
  rw [← hlength, ← htokens]
  exact .exhausted

/-- A token that is not a misplaced finish is taken by itself. -/
theorem Stands.token
    {token : Token}
    (h : Stands tokens failed ⟨token :: rest, position⟩)
    (hlast : token = .finish → rest = []) :
    Stands tokens failed ⟨rest, position + 1⟩ ∧
      Takes tokens failed (position + failed) (.ok token) (position + 1 + failed) := by
  obtain ⟨front, rfl, hlength⟩ := h
  rw [Nat.add_right_comm]
  refine ⟨⟨front ++ [token], by simp, ?_⟩, .token ?_ ?_⟩
  · rw [List.length_append, hlength, List.length_singleton, Nat.add_right_comm]
  · rw [← hlength]
    simp
  · intro hfinish
    rw [← hlength, hlast hfinish]
    simp

/-- A misplaced finish is taken with the token behind it, and counted with it as one answer. -/
theorem Stands.misplaced
    {extra : Token}
    (h : Stands tokens failed ⟨.finish :: extra :: rest, position⟩) :
    Stands tokens (failed + 1) ⟨rest, position + 1⟩ ∧
      Takes tokens failed (position + failed)
        (.error (.afterFinish extra.label position)) (position + 1 + (failed + 1)) := by
  obtain ⟨front, rfl, hlength⟩ := h
  have hbehind : position + 1 + (failed + 1) = position + failed + 2 := by omega
  rw [hbehind]
  refine ⟨⟨front ++ [.finish, extra], by simp, ?_⟩, .misplaced ?_ ?_⟩
  · rw [List.length_append, hlength, hbehind]
    rfl
  · rw [← hlength]
    simp
  · rw [← hlength]
    simp

/-- Each request takes what its answer says and leaves the tokens behind it pending. -/
theorem Stands.next
    (h : Stands tokens failed queue) :
    Stands tokens (Source.countError failed queue.next.1) queue.next.2 ∧
      Takes tokens failed (queue.position + failed) queue.next.1
        (queue.next.2.position + Source.countError failed queue.next.1) := by
  match queue, h with
  | ⟨[], position⟩, h => exact ⟨h, h.exhausted⟩
  | ⟨[.finish], position⟩, h => exact h.token fun _ => rfl
  | ⟨.finish :: extra :: rest, position⟩, h => exact h.misplaced
  | ⟨.piece content :: rest, position⟩, h => exact h.token Token.noConfusion

end Steps

section Runs

variable (tokens : List Token)

theorem stands_after
    (count : Nat) :
    Stands tokens (Source.failures (ofList tokens) count)
      (Source.after (ofList tokens) count) := by
  induction count with
  | zero => exact stands_ofList tokens
  | succ count ih => exact ih.next.1

theorem taken_eq
    (count : Nat) :
    taken tokens count =
      (Source.after (ofList tokens) count).position +
        Source.failures (ofList tokens) count :=
  (stands_after tokens count).length_sub

theorem takes_answer
    (count : Nat) :
    Takes tokens (Source.failures (ofList tokens) count) (taken tokens count)
      (Source.answer (ofList tokens) count) (taken tokens (count + 1)) := by
  rw [taken_eq, taken_eq]
  exact (stands_after tokens count).next.2

variable {tokens}

/-- Nothing is taken from an exhausted queue, and it answers the finish. -/
theorem Takes.of_exhausted
    {failed index : Nat} {answer : Except SourceError Token}
    (h : Takes tokens failed tokens.length answer index) :
    answer = .ok .finish ∧ index = tokens.length := by
  generalize hstart : tokens.length = start at h
  cases h with
  | token htoken hlast => simp [← hstart] at htoken
  | misplaced hfinish hextra => simp [← hstart] at hfinish
  | exhausted => exact ⟨rfl, rfl⟩

/-- Every answer takes something from a queue that is not exhausted. -/
theorem Takes.lt_or_exhausted
    {failed start stop : Nat} {answer : Except SourceError Token}
    (h : Takes tokens failed start answer stop) :
    start < stop ∨ start = tokens.length := by
  cases h with
  | token htoken hlast => exact Or.inl (Nat.lt_succ_self _)
  | misplaced hfinish hextra => exact Or.inl (Nat.lt_add_of_pos_right Nat.two_pos)
  | exhausted => exact Or.inr rfl

theorem taken_of_exhausted
    {first index : Nat}
    (hfirst : taken tokens first = tokens.length)
    (hindex : first ≤ index) :
    taken tokens index = tokens.length := by
  induction hindex with
  | refl => exact hfirst
  | @step index hle ih =>
      have htakes := takes_answer tokens index
      rw [ih] at htakes
      exact htakes.of_exhausted.2

/-- Up to the first misplaced finish there are as many answers as tokens taken. -/
theorem Takes.located
    {start stop position : Nat} {found : String}
    (h : Takes tokens 0 start (.error (.afterFinish found position)) stop) :
    tokens[position]? = some .finish ∧
      ∃ extra, tokens[position + 1]? = some extra ∧ found = extra.label := by
  cases h with
  | misplaced hfinish hextra => exact ⟨hfinish, _, hextra, rfl⟩

/-- Up to any request each one has taken something, or the queue is exhausted. -/
theorem le_taken_or_exhausted
    (tokens : List Token)
    (count : Nat) :
    count ≤ taken tokens count ∨ taken tokens count = tokens.length := by
  induction count with
  | zero => exact Or.inl (Nat.zero_le _)
  | succ count ih =>
      rcases ih with hle | hexhausted
      · rcases (takes_answer tokens count).lt_or_exhausted with hlt | hexhausted
        · exact Or.inl (Nat.succ_le_of_lt (Nat.lt_of_le_of_lt hle hlt))
        · exact Or.inr (taken_of_exhausted hexhausted (Nat.le_succ count))
      · exact Or.inr (taken_of_exhausted hexhausted (Nat.le_succ count))

/-- As many requests as there are tokens exhaust a queue. -/
theorem taken_of_length_le
    {count : Nat}
    (hcount : tokens.length ≤ count) :
    taken tokens count = tokens.length := by
  have hbound : taken tokens count ≤ tokens.length := Nat.sub_le _ _
  rcases le_taken_or_exhausted tokens count with hle | hexhausted
  · exact Nat.le_antisymm hbound (Nat.le_trans hcount hle)
  · exact hexhausted

end Runs

/--
The answers of a queue account for its tokens in their order. Each takes the
next token, or a misplaced finish and the token behind it, which the error names;
as many requests as there are tokens exhaust the queue, which answers the finish
from then on. The position in an error falls short of the place of the misplaced
finish by the number of errors before it, so it is that place for the first one.
-/
theorem requests_take_tokens
    (tokens : List Token) :
    let answer := Source.answer (ofList tokens)
    let failed := Source.failures (ofList tokens)
    let start := taken tokens
    start 0 = 0 ∧
    (∀ i, Takes tokens (failed i) (start i) (answer i) (start (i + 1))) ∧
    (∀ i, tokens.length ≤ i → start i = tokens.length) ∧
    (∀ i j, start i = tokens.length → i ≤ j → answer j = .ok .finish) ∧
    ∀ i found position,
      failed i = 0 →
      answer i = .error (.afterFinish found position) →
        tokens[position]? = some .finish ∧
        ∃ extra, tokens[position + 1]? = some extra ∧ found = extra.label := by
  intro answer failed start
  refine ⟨Nat.sub_self _, takes_answer tokens, fun i => taken_of_length_le, ?_, ?_⟩
  · intro i j hexhausted hij
    have htakes := takes_answer tokens j
    rw [taken_of_exhausted hexhausted hij] at htakes
    exact htakes.of_exhausted.1
  · intro i found position hfailed hanswer
    have htakes : Takes tokens (failed i) (start i) (answer i) (start (i + 1)) :=
      takes_answer tokens i
    rw [hfailed, hanswer] at htakes
    exact htakes.located

/-- The first of two misplaced finishes is located, and the queue is exhausted behind the second. -/
theorem requests_take_tokens_two_misplaced :
    let tokens : List Token := [.piece .nil, .finish, .finish, .finish, .piece .nil]
    let answer := Source.answer (ofList tokens)
    answer 1 = .error (.afterFinish "end of input" 1) ∧
      tokens[1]? = some .finish ∧
      (∃ extra, tokens[2]? = some extra ∧ "end of input" = extra.label) ∧
      answer 2 = .error (.afterFinish "nil" 2) ∧
      ∀ j, 3 ≤ j → answer j = .ok .finish := by
  intro tokens answer
  have hanswer : answer 1 = .error (.afterFinish "end of input" 1) := rfl
  obtain ⟨-, -, -, hexhausted, hlocated⟩ := requests_take_tokens tokens
  obtain ⟨hfinish, hextra⟩ := hlocated 1 _ 1 rfl hanswer
  exact ⟨hanswer, hfinish, hextra, rfl, fun j hj => hexhausted 3 j rfl hj⟩

/-- The position in the second error is not that of the finish, but of a token before it. -/
theorem second_misplaced_finish_not_located :
    let tokens : List Token := [.finish, .piece .nil, .finish, .piece .nil]
    Source.answer (ofList tokens) 1 = .error (.afterFinish "nil" 1) ∧
      tokens[1]? ≠ some .finish ∧
      taken tokens 1 = 2 ∧
      tokens[2]? = some .finish :=
  ⟨rfl, by decide, rfl, rfl⟩

end Queue
end LayoutRules
