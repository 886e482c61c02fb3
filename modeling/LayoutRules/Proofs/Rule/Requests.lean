import LayoutRules.Proofs.Rule.Course

/-!
# Requests in turn

A reader is asked for a rule again and again, and goes on after failures. A
request is made of single moves: a token is given up, or the source fails and
nothing but the source has moved. A trail is a run of such moves; every
request is one, and so are the requests up to any point.
-/

namespace LayoutRules

namespace Event

/-- The token that an event shows to be given up, with its position. -/
def shift? : Event → Option (Token × Nat)
  | .shifted token position => some (token, position)
  | _ => none

/-- The tokens that are shown to be given up, with their positions. -/
def shifts (events : List Event) : List (Token × Nat) :=
  events.filterMap shift?

@[simp] theorem shifts_append
    (first second : List Event) :
    shifts (first ++ second) = shifts first ++ shifts second :=
  List.filterMap_append

end Event

namespace Step

variable {σ α : Type}

/-- What is shown when a reading has failed. -/
def rejection (step : Step σ α) : List Event :=
  match step.outcome with
  | .ok _ => []
  | .error error => [.ruleRejected error]

@[simp] theorem shifts_rejection
    (step : Step σ α) :
    Event.shifts step.rejection = [] := by
  unfold rejection
  split <;> rfl

end Step

namespace Reading

variable {σ α : Type}

/-- Showing a failure adds the rejection to what is shown, and changes nothing else. -/
theorem shown_eq
    (reading : Reading σ α)
    (reader : Reader σ) :
    shown reading reader =
      ⟨(reading reader).outcome, (reading reader).reader,
        (reading reader).events ++ (reading reader).rejection⟩ := by
  rcases hstep : reading reader with ⟨error | a, after, events⟩ <;>
    simp only [shown, Step.rejection, hstep, List.append_nil]

end Reading

namespace Reader

variable {σ δ : Type}

theorem traced_of_trace
    {reader : Reader σ}
    (h : reader.trace = true)
    (events : List Event) :
    reader.traced events = events := by
  rw [traced, h, if_pos rfl]

/-- What a reader shows of the tokens that it gives up: all of them or, untraced, none. -/
def shownShifts (reader : Reader σ) (given : List Token) : List (Token × Nat) :=
  if reader.trace then given.zipIdx reader.position else []

@[simp] theorem shownShifts_nil
    (reader : Reader σ) :
    reader.shownShifts [] = [] := by
  unfold shownShifts
  split <;> rfl

theorem shifts_traced
    {reader : Reader σ} {events : List Event} {given : List Token}
    (h : Event.shifts events = given.zipIdx reader.position) :
    Event.shifts (reader.traced events) = reader.shownShifts given := by
  unfold traced shownShifts
  cases reader.trace with
  | false => rfl
  | true => exact h

variable [Source σ]

/-- A request takes one of the courses and shows its failure behind it. -/
theorem exists_course_of_read
    (reader : Reader σ) :
    ∃ step : Step σ (Tree δ),
      reader.Course step ∧
      reader.read = ⟨step.outcome, step.reader, step.events ++ step.rejection⟩ :=
  ⟨Reading.rule reader, Reading.course_rule reader, Reading.shown_eq Reading.rule reader⟩

section Runs

variable (δ)

/-- The reader after a number of requests. -/
def afterRequests (reader : Reader σ) : Nat → Reader σ
  | 0 => reader
  | count + 1 => (read (afterRequests reader count) : Step σ (Tree δ)).reader

/-- What a request comes to, the first one being number zero. -/
def request (reader : Reader σ) (index : Nat) : Step σ (Tree δ) :=
  (reader.afterRequests δ index).read

/-- What the first few requests show. -/
def log (reader : Reader σ) : Nat → List Event
  | 0 => []
  | count + 1 => log reader count ++ (reader.request δ count).events

theorem afterRequests_succ
    (reader : Reader σ)
    (count : Nat) :
    reader.afterRequests δ (count + 1) = (reader.request δ count).reader :=
  rfl

theorem log_succ
    (reader : Reader σ)
    (count : Nat) :
    reader.log δ (count + 1) = reader.log δ count ++ (reader.request δ count).events :=
  rfl

end Runs

/--
From one reader to another by a number of requests to the source, in which the
tokens of the list are given up in its order.
-/
inductive Trail (reader : Reader σ) : Nat → List Token → Reader σ → Prop
  | still : Trail reader 0 [] reader
  | shifts
      {asked : Nat} {given : List Token} {middle after : Reader σ}
      (htrail : Trail reader asked given middle)
      (hshifts : middle.Shifts after) :
      Trail reader (asked + 1) (given ++ [middle.current]) after
  | loses
      {asked : Nat} {given : List Token} {middle after : Reader σ} {error : SourceError}
      (htrail : Trail reader asked given middle)
      (hloses : middle.Loses error after) :
      Trail reader (asked + 1) given after

namespace Trail

variable {reader middle after : Reader σ} {asked asked' : Nat} {given given' : List Token}

theorem append
    (h : Trail reader asked given middle)
    (h' : Trail middle asked' given' after) :
    Trail reader (asked + asked') (given ++ given') after := by
  induction h' with
  | still =>
      rw [List.append_nil]
      exact h
  | shifts htrail hshifts ih =>
      rw [← List.append_assoc]
      exact ih.shifts hshifts
  | loses htrail hloses ih => exact ih.loses hloses

theorem trace_eq
    (h : Trail reader asked given after) :
    after.trace = reader.trace := by
  induction h with
  | still => rfl
  | shifts htrail hshifts ih => rw [hshifts.trace_eq, ih]
  | loses htrail hloses ih =>
      obtain ⟨source, -, rfl⟩ := hloses
      exact ih

/-- The position counts the tokens that are given up. -/
theorem position_eq
    (h : Trail reader asked given after) :
    after.position = reader.position + given.length := by
  induction h with
  | still => rfl
  | shifts htrail hshifts ih =>
      obtain ⟨source, token, -, rfl⟩ := hshifts
      rw [List.length_append, List.length_singleton, ← Nat.add_assoc, ← ih]
  | loses htrail hloses ih =>
      obtain ⟨source, -, rfl⟩ := hloses
      exact ih

end Trail

/-- What is shown along two trails is shown along both together. -/
theorem Trail.shownShifts_append
    {reader middle : Reader σ} {asked : Nat} {given : List Token}
    (h : reader.Trail asked given middle)
    (given' : List Token) :
    reader.shownShifts (given ++ given') =
      reader.shownShifts given ++ middle.shownShifts given' := by
  unfold shownShifts
  -- The second trail counts on from where the first one has ended.
  rw [h.trace_eq, h.position_eq]
  cases reader.trace with
  | false => rfl
  | true => exact List.zipIdx_append

/-- Each course moves along a trail and shows the tokens that it gives up. -/
theorem Course.exists_trail
    {reader : Reader σ} {step : Step σ (Tree δ)}
    (h : reader.Course step) :
    ∃ asked given,
      reader.Trail asked given step.reader ∧
      Event.shifts step.events = reader.shownShifts given := by
  have hnone : Event.shifts [] = reader.shownShifts [] := reader.shownShifts_nil.symm
  cases h with
  | empty hfinish => exact ⟨_, _, .still, hnone⟩
  | noAttribute hpiece hattr => exact ⟨_, _, .still, hnone⟩
  | attributeLost hattr hloses => exact ⟨_, _, Trail.still.loses hloses, hnone⟩
  | noOperator hattr hfirst hoperator =>
      exact ⟨_, _, Trail.still.shifts hfirst, shifts_traced rfl⟩
  | operatorLost hattr hfirst hoperator hloses =>
      exact ⟨_, _, (Trail.still.shifts hfirst).loses hloses, shifts_traced rfl⟩
  | noValue hattr hfirst hoperator hsecond hvalue =>
      refine ⟨_, _, (Trail.still.shifts hfirst).shifts hsecond, shifts_traced ?_⟩
      obtain ⟨source, token, -, rfl⟩ := hfirst
      rfl
  | valueLost hattr hfirst hoperator hsecond hvalue hisValue hloses =>
      refine ⟨_, _, ((Trail.still.shifts hfirst).shifts hsecond).loses hloses,
        shifts_traced ?_⟩
      obtain ⟨source, token, -, rfl⟩ := hfirst
      rfl
  | trailing hattr hfirst hoperator hsecond hvalue hisValue hthird htrailing =>
      refine ⟨_, _, ((Trail.still.shifts hfirst).shifts hsecond).shifts hthird,
        shifts_traced ?_⟩
      obtain ⟨source, token, -, rfl⟩ := hfirst
      obtain ⟨source, token, -, rfl⟩ := hsecond
      rfl
  | rule hattr hfirst hoperator hsecond hvalue hisValue hthird hfinish =>
      refine ⟨_, _, ((Trail.still.shifts hfirst).shifts hsecond).shifts hthird,
        shifts_traced ?_⟩
      obtain ⟨source, token, -, rfl⟩ := hfirst
      obtain ⟨source, token, -, rfl⟩ := hsecond
      rfl

theorem exists_trail_of_request
    (reader : Reader σ)
    (index : Nat) :
    ∃ asked given,
      (reader.afterRequests δ index).Trail asked given (reader.afterRequests δ (index + 1)) ∧
      Event.shifts (reader.request δ index).events =
        (reader.afterRequests δ index).shownShifts given := by
  obtain ⟨step, hcourse, hread⟩ :=
    exists_course_of_read (δ := δ) (reader.afterRequests δ index)
  obtain ⟨asked, given, htrail, hshifts⟩ := hcourse.exists_trail
  refine ⟨asked, given, ?_, ?_⟩
  · rw [afterRequests_succ, request, hread]
    exact htrail
  · rw [request, hread, Event.shifts_append, Step.shifts_rejection, List.append_nil, hshifts]

/-- The requests up to any point move along a trail and show the tokens given up on it. -/
theorem exists_trail
    (reader : Reader σ)
    (count : Nat) :
    ∃ asked given,
      reader.Trail asked given (reader.afterRequests δ count) ∧
      Event.shifts (reader.log δ count) = reader.shownShifts given := by
  induction count with
  | zero => exact ⟨0, [], .still, reader.shownShifts_nil.symm⟩
  | succ count ih =>
      obtain ⟨asked, given, htrail, hshifts⟩ := ih
      obtain ⟨asked', given', htrail', hshifts'⟩ :=
        exists_trail_of_request (δ := δ) reader count
      refine ⟨asked + asked', given ++ given', htrail.append htrail', ?_⟩
      rw [log_succ, Event.shifts_append, hshifts, hshifts', htrail.shownShifts_append]

/-- Requests do not change whether a reader is traced. -/
theorem afterRequests_trace
    (reader : Reader σ)
    (count : Nat) :
    (reader.afterRequests δ count).trace = reader.trace := by
  obtain ⟨asked, given, htrail, -⟩ := exists_trail (δ := δ) reader count
  exact htrail.trace_eq

end Reader
end LayoutRules
