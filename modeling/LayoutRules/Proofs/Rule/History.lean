import LayoutRules.Proofs.Rule.Requests
import LayoutRules.Proofs.Source.Answers

/-!
# The tokens of a reader's life

A source delivers tokens, and a reader gives them up one by one. Whatever
fails in between, the tokens that were given up and the current one behind
them are what the source has delivered, in its order, and the position is the
number of those given up.

The invariant is kept by each move of a trail, so it holds after any number
of requests.
-/

namespace LayoutRules

namespace Source

variable {σ : Type} [Source σ]

/-- The tokens among the first answers of a source. -/
def delivered (source : σ) : Nat → List Token
  | 0 => []
  | count + 1 => delivered source count ++ (answer source count).toOption.toList

theorem delivered_succ_of_ok
    {source : σ} {count : Nat} {token : Token}
    (h : answer source count = .ok token) :
    delivered source (count + 1) = delivered source count ++ [token] := by
  rw [delivered, h]
  rfl

theorem delivered_succ_of_error
    {source : σ} {count : Nat} {error : SourceError}
    (h : answer source count = .error error) :
    delivered source (count + 1) = delivered source count := by
  rw [delivered, h]
  exact List.append_nil _

end Source

namespace Reader

variable {σ δ : Type} [Source σ]

/-- What a reader has given up and has as its current token is what its source has delivered. -/
structure Remembers
    (source : σ)
    (asked : Nat)
    (given : List Token)
    (reader : Reader σ) :
    Prop where
  rest : reader.source = Source.after source asked
  tokens : Source.delivered source asked = given ++ [reader.current]
  position : reader.position = given.length

section Steps

variable {source : σ} {asked : Nat} {given : List Token} {reader after : Reader σ}

theorem Remembers.shifts
    (h : Remembers source asked given reader)
    (hshifts : reader.Shifts after) :
    Remembers source (asked + 1) (given ++ [reader.current]) after := by
  obtain ⟨rest, token, hnext, rfl⟩ := hshifts
  rw [h.rest, Source.next_after] at hnext
  obtain ⟨hanswer, hrest⟩ := Prod.mk.inj hnext
  refine ⟨hrest.symm, ?_, ?_⟩
  · rw [Source.delivered_succ_of_ok hanswer, h.tokens]
  · rw [List.length_append, List.length_singleton, h.position]

theorem Remembers.loses
    {error : SourceError}
    (h : Remembers source asked given reader)
    (hloses : reader.Loses error after) :
    Remembers source (asked + 1) given after := by
  obtain ⟨rest, hnext, rfl⟩ := hloses
  rw [h.rest, Source.next_after] at hnext
  obtain ⟨hanswer, hrest⟩ := Prod.mk.inj hnext
  refine ⟨hrest.symm, ?_, h.position⟩
  rw [Source.delivered_succ_of_error hanswer, h.tokens]

/-- The first token is the first answer, and nothing has been given up. -/
theorem remembers_of_start
    {trace : Bool}
    (h : start source trace = .ok reader) :
    reader.trace = trace ∧ Remembers source 1 [] reader := by
  unfold start at h
  rcases hnext : Source.next source with ⟨error | first, rest⟩
  · rw [hnext] at h
    cases h
  · rw [hnext] at h
    cases h
    have hanswer : Source.answer source 0 = .ok first := congrArg Prod.fst hnext
    have hrest : Source.after source 1 = rest := congrArg Prod.snd hnext
    refine ⟨rfl, hrest.symm, ?_, rfl⟩
    rw [Source.delivered_succ_of_ok hanswer]
    rfl

/-- Every trail keeps the memory. -/
theorem Trail.remembers
    {asked' : Nat} {given' : List Token}
    (htrail : reader.Trail asked' given' after)
    (h : Remembers source asked given reader) :
    Remembers source (asked + asked') (given ++ given') after := by
  induction htrail with
  | still =>
      rw [List.append_nil]
      exact h
  | shifts htrail hshifts ih =>
      rw [← List.append_assoc]
      exact ih.shifts hshifts
  | loses htrail hloses ih => exact ih.loses hloses

end Steps

/-- An error is about the current token, found at the reader's position. -/
def Blames (reader : Reader σ) : RuleError → Prop
  | .empty => reader.current = .finish
  | .unexpected _ found position =>
      found = reader.current.label ∧ position = reader.position
  | .trailing found position =>
      found = reader.current.label ∧ position = reader.position
  | .lexical _ | .shape _ | .tooLong _ _ | .exhausted => False

/-- The tokens are given up one after another, and the source does not fail in between. -/
def Gives
    (reader : Reader σ)
    (given : List Token)
    (after : Reader σ) :
    Prop :=
  reader.Trail given.length given after

theorem Gives.nothing
    (reader : Reader σ) :
    reader.Gives [] reader :=
  .still

theorem Gives.shifts
    {reader middle after : Reader σ} {given : List Token}
    (h : reader.Gives given middle)
    (hshifts : middle.Shifts after) :
    reader.Gives (given ++ [middle.current]) after := by
  rw [Gives, List.length_append]
  exact Trail.shifts h hshifts

/-- Tokens are given up until the source fails, and its failure is the error. -/
def Starves
    (reader : Reader σ)
    (error : RuleError)
    (after : Reader σ) :
    Prop :=
  ∃ given last cause,
    reader.Gives given last ∧
    last.Loses cause after ∧
    error = .ofSource cause

/-- Tokens are given up until one is current that the error is about. -/
def Stops
    (reader : Reader σ)
    (error : RuleError)
    (after : Reader σ) :
    Prop :=
  ∃ given, reader.Gives given after ∧ after.Blames error

/-- A course fails for its source or for the token at which it stops. -/
theorem Course.starves_or_stops
    {reader : Reader σ} {step : Step σ (Tree δ)} {error : RuleError}
    (h : reader.Course step)
    (herror : step.outcome = .error error) :
    reader.Starves error step.reader ∨ reader.Stops error step.reader := by
  have hgives := Gives.nothing reader
  cases h with
  | empty hfinish =>
      cases herror
      exact Or.inr ⟨_, hgives, hfinish⟩
  | noAttribute hpiece hattr =>
      cases herror
      exact Or.inr ⟨_, hgives, rfl, rfl⟩
  | attributeLost hattr hloses =>
      cases herror
      exact Or.inl ⟨_, _, _, hgives, hloses, rfl⟩
  | noOperator hattr hfirst hoperator =>
      cases herror
      exact Or.inr ⟨_, hgives.shifts hfirst, rfl, rfl⟩
  | operatorLost hattr hfirst hoperator hloses =>
      cases herror
      exact Or.inl ⟨_, _, _, hgives.shifts hfirst, hloses, rfl⟩
  | noValue hattr hfirst hoperator hsecond hvalue =>
      cases herror
      exact Or.inr ⟨_, (hgives.shifts hfirst).shifts hsecond, rfl, rfl⟩
  | valueLost hattr hfirst hoperator hsecond hvalue hisValue hloses =>
      cases herror
      exact Or.inl ⟨_, _, _, (hgives.shifts hfirst).shifts hsecond, hloses, rfl⟩
  | trailing hattr hfirst hoperator hsecond hvalue hisValue hthird htrailing =>
      cases herror
      exact Or.inr ⟨_, ((hgives.shifts hfirst).shifts hsecond).shifts hthird, rfl, rfl⟩
  | rule hattr hfirst hoperator hsecond hvalue hisValue hthird hfinish => cases herror

/-- That nothing or something else was found is never a failure of the source. -/
theorem blames_of_starves_or_stops
    {before after : Reader σ} {error : RuleError}
    (h : before.Starves error after ∨ before.Stops error after)
    (herror :
      error = .empty ∨
        ∃ expected found position, error = .unexpected expected found position) :
    after.Blames error := by
  rcases h with ⟨given, last, cause, -, -, hcause⟩ | ⟨given, -, hblames⟩
  · subst hcause
    -- No failure of a source is reported as a missing or an unexpected token.
    rcases herror with herror | ⟨expected, found, position, herror⟩ <;>
      cases cause <;> cases herror
  · exact hblames

/--
After any number of requests, the tokens that a reader has given up and its
current one behind them are what its source has delivered, the position is the
number of those given up, and a traced reader has shown each of them at its
place. A request fails for its source, which leaves the reader as it was when
the source was asked last, or for the current token at the reader's position;
that nothing or something else was found is always about the current token.
-/
theorem requests_lose_no_token
    {source : σ} {trace : Bool} {reader : Reader σ}
    (hstart : start source trace = .ok reader)
    (count : Nat) :
    (∃ asked given,
      reader.Trail asked given (reader.afterRequests δ count) ∧
      Remembers source (1 + asked) given (reader.afterRequests δ count) ∧
      Event.shifts (reader.log δ count) = if trace then given.zipIdx else []) ∧
    (∀ error, (reader.request δ count).outcome = .error error →
      ((reader.afterRequests δ count).Starves error (reader.afterRequests δ (count + 1)) ∨
        (reader.afterRequests δ count).Stops error (reader.afterRequests δ (count + 1))) ∧
      ((error = .empty ∨
          ∃ expected found position, error = .unexpected expected found position) →
        (reader.afterRequests δ (count + 1)).Blames error)) := by
  obtain ⟨htrace, hfirst⟩ := remembers_of_start hstart
  refine ⟨?_, ?_⟩
  · obtain ⟨asked, given, htrail, hshifts⟩ := exists_trail (δ := δ) reader count
    refine ⟨asked, given, htrail, htrail.remembers hfirst, ?_⟩
    rw [hshifts, shownShifts, htrace, hfirst.position]
    rfl
  · intro error herror
    obtain ⟨step, hcourse, hread⟩ :=
      exists_course_of_read (δ := δ) (reader.afterRequests δ count)
    rw [afterRequests_succ]
    rw [request, hread] at herror ⊢
    have hends := hcourse.starves_or_stops herror
    exact ⟨hends, blames_of_starves_or_stops hends⟩

/-- A finish with a token behind it fails the first request, and the second goes on behind both. -/
theorem requests_lose_no_token_early_finish :
    let tokens : List Token :=
      [.piece (.attr "x"), .finish, .piece (.operator .assign), .piece .nil]
    let reader : Reader Queue := ⟨⟨tokens.tail, 1⟩, .piece (.attr "x"), 0, true⟩
    start (Queue.ofList tokens) true = .ok reader ∧
      (∃ asked given,
        Remembers (Queue.ofList tokens) (1 + asked) given (reader.afterRequests Unit 2) ∧
        Event.shifts (reader.log Unit 2) = given.zipIdx) ∧
      (reader.request Unit 1).outcome = .error (.unexpected .operator "nil" 1) ∧
      (reader.afterRequests Unit 2).Blames (.unexpected .operator "nil" 1) := by
  intro tokens reader
  have hstart : start (Queue.ofList tokens) true = .ok reader := rfl
  have herror : (reader.request Unit 1).outcome = .error (.unexpected .operator "nil" 1) := rfl
  obtain ⟨asked, given, -, hremembers, hshifts⟩ := (requests_lose_no_token hstart 2).1
  exact ⟨hstart, ⟨asked, given, hremembers, hshifts⟩, herror,
    ((requests_lose_no_token hstart 1).2 _ herror).2 (Or.inr ⟨_, _, _, rfl⟩)⟩

end Reader
end LayoutRules
