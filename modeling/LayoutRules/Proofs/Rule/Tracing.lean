import LayoutRules.Proofs.Rule.Agreement

/-!
# Settings only observe

A greatest length is looked at before anything is read, and a trace decides
nothing but what is shown. The course of a request is the same whether or not
its reader is traced; a traced one shows its details, and a rejection is shown
by both. So traced and untraced readers come to the same outcomes and stay in
the same state at every request, and the log of the one is that of the other
without the details.
-/

namespace LayoutRules

namespace Event

/-- What is shown whether or not a reading is traced. -/
def withoutDetails (events : List Event) : List Event :=
  events.filter fun event => !event.isDetail

@[simp] theorem withoutDetails_append
    (first second : List Event) :
    withoutDetails (first ++ second) = withoutDetails first ++ withoutDetails second :=
  List.filter_append first second

theorem withoutDetails_of_all
    {events : List Event}
    (h : events.all isDetail = true) :
    withoutDetails events = [] := by
  rw [withoutDetails, List.filter_eq_nil_iff]
  intro event hevent
  simp [List.all_eq_true.mp h event hevent]

end Event

namespace Step

variable {σ α : Type}

/-- A rejection is shown by every reading. -/
@[simp] theorem withoutDetails_rejection
    (step : Step σ α) :
    Event.withoutDetails step.rejection = step.rejection := by
  unfold rejection
  split <;> rfl

end Step

namespace Reader

variable {σ δ : Type}

/-- The reader in the same state, traced or not. -/
def withTrace (reader : Reader σ) (trace : Bool) : Reader σ :=
  { reader with trace }

variable [Source σ]

theorem Shifts.withTrace
    {reader after : Reader σ}
    (h : reader.Shifts after)
    (trace : Bool) :
    (reader.withTrace trace).Shifts (after.withTrace trace) := by
  obtain ⟨source, token, hnext, rfl⟩ := h
  exact ⟨source, token, hnext, rfl⟩

theorem Loses.withTrace
    {reader after : Reader σ} {error : SourceError}
    (h : reader.Loses error after)
    (trace : Bool) :
    (reader.withTrace trace).Loses error (after.withTrace trace) := by
  obtain ⟨source, hnext, rfl⟩ := h
  exact ⟨source, hnext, rfl⟩

/-- A course is taken with a trace and without, and what a traced one shows are details. -/
theorem Course.exists_details
    {reader : Reader σ} {step : Step σ (Tree δ)}
    (h : reader.Course step) :
    ∃ details : List Event,
      details.all Event.isDetail = true ∧
      ∀ trace,
        (reader.withTrace trace).Course
          (⟨step.outcome, step.reader.withTrace trace, if trace then details else []⟩ :
            Step σ (Tree δ)) := by
  -- The readers on the way are named, since the outcome is the same for all their traces.
  cases h with
  | empty hfinish =>
      refine ⟨[], rfl, fun trace => ?_⟩
      rw [ite_self]
      exact .empty hfinish
  | noAttribute hpiece hattr =>
      refine ⟨[], rfl, fun trace => ?_⟩
      rw [ite_self]
      exact .noAttribute hpiece hattr
  | attributeLost hattr hloses =>
      refine ⟨[], rfl, fun trace => ?_⟩
      rw [ite_self]
      exact .attributeLost hattr (hloses.withTrace trace)
  | @noOperator name first hattr hfirst hoperator =>
      refine
        ⟨[reader.shifting, .reduced .attr, .abandoned (.ofContent (.attr name))], rfl,
          fun trace => ?_⟩
      exact @Course.noOperator _ _ _ _ name (first.withTrace trace) hattr
        (hfirst.withTrace trace) hoperator
  | @operatorLost name op error first after hattr hfirst hoperator hloses =>
      refine
        ⟨[reader.shifting, .reduced .attr, .abandoned (.ofContent (.attr name))], rfl,
          fun trace => ?_⟩
      exact @Course.operatorLost _ _ _ _ name op error (first.withTrace trace) _ hattr
        (hfirst.withTrace trace) hoperator (hloses.withTrace trace)
  | @noValue name op first second hattr hfirst hoperator hsecond hvalue =>
      refine
        ⟨[reader.shifting, .reduced .attr, first.shifting,
          .abandoned (.ofContent (.attr name))], rfl, fun trace => ?_⟩
      exact @Course.noValue _ _ _ _ name op (first.withTrace trace) (second.withTrace trace)
        hattr (hfirst.withTrace trace) hoperator (hsecond.withTrace trace) hvalue
  | @valueLost name op value error first second after hattr hfirst hoperator hsecond
      hvalue hisValue hloses =>
      refine
        ⟨[reader.shifting, .reduced .attr, first.shifting,
          .abandoned (.ofContent (.attr name))], rfl, fun trace => ?_⟩
      exact @Course.valueLost _ _ _ _ name op value error (first.withTrace trace)
        (second.withTrace trace) _ hattr (hfirst.withTrace trace) hoperator
        (hsecond.withTrace trace) hvalue hisValue (hloses.withTrace trace)
  | @trailing name op value first second third hattr hfirst hoperator hsecond hvalue
      hisValue hthird htrailing =>
      refine
        ⟨[reader.shifting, .reduced .attr, first.shifting, second.shifting,
          .reduced value.category, .abandoned (.ofContent (.attr name) + .ofContent value)],
          rfl, fun trace => ?_⟩
      exact @Course.trailing _ _ _ _ name op value (first.withTrace trace)
        (second.withTrace trace) (third.withTrace trace) hattr (hfirst.withTrace trace)
        hoperator (hsecond.withTrace trace) hvalue hisValue (hthird.withTrace trace) htrailing
  | @rule name op value first second third hattr hfirst hoperator hsecond hvalue
      hisValue hthird hfinish =>
      refine
        ⟨[reader.shifting, .reduced .attr, first.shifting, second.shifting,
          .reduced value.category, .accepted (.operator op)], rfl, fun trace => ?_⟩
      exact @Course.rule _ _ _ _ name op value (first.withTrace trace)
        (second.withTrace trace) (third.withTrace trace) hattr (hfirst.withTrace trace)
        hoperator (hsecond.withTrace trace) hvalue hisValue (hthird.withTrace trace) hfinish

/-- A request comes to the same with a trace and without, but for the details that it shows. -/
theorem exists_details_of_read
    (reader : Reader σ) :
    ∃ (step : Step σ (Tree δ)) (details : List Event),
      details.all Event.isDetail = true ∧
      ∀ trace,
        (reader.withTrace trace).read =
          (⟨step.outcome, step.reader.withTrace trace,
            (if trace then details else []) ++ step.rejection⟩ : Step σ (Tree δ)) := by
  obtain ⟨details, hdetails, hcourse⟩ :=
    (Reading.course_rule (δ := δ) reader).exists_details
  refine ⟨Reading.rule reader, details, hdetails, fun trace => ?_⟩
  rw [read, Reading.shown_eq, Reading.rule_eq_of_course (hcourse trace)]
  rfl

section Requests

variable (reader : Reader σ) (trace : Bool)

theorem read_withTrace :
    ((reader.withTrace trace).read : Step σ (Tree δ)).outcome = reader.read.outcome ∧
      ((reader.withTrace trace).read : Step σ (Tree δ)).reader =
        (reader.read : Step σ (Tree δ)).reader.withTrace trace := by
  obtain ⟨step, details, -, hread⟩ := exists_details_of_read (δ := δ) reader
  have hself : (reader.read : Step σ (Tree δ)) = _ := hread reader.trace
  rw [hread trace, hself]
  exact ⟨rfl, rfl⟩

/-- What a traced request shows besides details is what an untraced one shows. -/
theorem withoutDetails_read :
    Event.withoutDetails ((reader.withTrace true).read : Step σ (Tree δ)).events =
      ((reader.withTrace false).read : Step σ (Tree δ)).events := by
  obtain ⟨step, details, hdetails, hread⟩ := exists_details_of_read (δ := δ) reader
  rw [hread true, hread false]
  simp [Event.withoutDetails_of_all hdetails]

theorem afterRequests_withTrace
    (count : Nat) :
    (reader.withTrace trace).afterRequests δ count =
      (reader.afterRequests δ count).withTrace trace := by
  induction count with
  | zero => rfl
  | succ count ih =>
      rw [afterRequests_succ, request, ih]
      exact ((reader.afterRequests δ count).read_withTrace trace).2

theorem request_withTrace
    (index : Nat) :
    (reader.withTrace trace).request δ index =
      ((reader.afterRequests δ index).withTrace trace).read := by
  rw [request, afterRequests_withTrace]

theorem withoutDetails_log
    (count : Nat) :
    Event.withoutDetails ((reader.withTrace true).log δ count) =
      (reader.withTrace false).log δ count := by
  induction count with
  | zero => rfl
  | succ count ih =>
      rw [log_succ, log_succ, Event.withoutDetails_append, ih, request_withTrace,
        request_withTrace, withoutDetails_read]

end Requests

/-- Whether a source can be started does not depend on the trace. -/
theorem start_withTrace
    (source : σ) :
    start source true = (start source false).map fun reader => reader.withTrace true := by
  unfold start
  split <;> rfl

end Reader

namespace Settings

theorem lengthError?_eq_some_iff
    {settings : Settings} {rule : String} {error : RuleError} :
    settings.lengthError? rule = some error ↔
      ∃ limit,
        settings.maxLength = some limit ∧
        limit < rule.utf8ByteSize ∧
        error = .tooLong rule.utf8ByteSize limit := by
  unfold lengthError?
  cases settings.maxLength with
  | none => simp
  | some limit => simp [eq_comm]

end Settings

namespace Rule

variable {σ δ : Type} [Source σ]

/-- What a source answers is never reported as too long. -/
theorem fault_ne_tooLong
    (place : Nat)
    (answer : Except SourceError Token)
    (length limit : Nat) :
    fault place answer ≠ .tooLong length limit := by
  cases answer with
  | error error => cases error <;> exact RuleError.noConfusion
  | ok token =>
      rw [fault]
      rcases misfit_cases token place with h | ⟨expected, h⟩ | h
      all_goals
        rw [h]
        exact RuleError.noConfusion

theorem outcome_ne_tooLong
    (trace : Bool)
    (source : σ)
    (length limit : Nat) :
    (outcome trace source : Except RuleError (Tree δ)) ≠ .error (.tooLong length limit) := by
  intro houtcome
  rcases delivers_or_refuses (δ := δ) trace source with hdelivers | ⟨place, -, hfault⟩
  · obtain ⟨name, op, value, -, -, -, -, -, htree⟩ := hdelivers
    rw [houtcome] at htree
    cases htree
  · rw [houtcome] at hfault
    exact fault_ne_tooLong place _ length limit (Except.error.inj hfault).symm

/-- Of a text that is too long nothing is read, and nothing is shown. -/
theorem ofText_of_lengthError
    {settings : Settings} {rule : String} {error : RuleError}
    (h : settings.lengthError? rule = some error) :
    (Tree.ofText settings rule : Except RuleError (Tree δ) × List Event) =
      (.error error, []) := by
  rw [Tree.ofText, h]

/-- A traced reading of a source shows what an untraced one shows, and details. -/
theorem withoutDetails_ofSource
    (source : σ) :
    Event.withoutDetails (Tree.ofSource true source : Except RuleError (Tree δ) × List Event).2 =
      (Tree.ofSource false source : Except RuleError (Tree δ) × List Event).2 := by
  rcases hnext : Source.next source with ⟨error | first, rest⟩
  · simp only [Tree.ofSource, Reader.start, hnext]
    rfl
  · simp only [Tree.ofSource, Reader.start, hnext]
    exact Reader.withoutDetails_read ⟨rest, first, 0, false⟩

theorem withoutDetails_announce
    (rule : String)
    (events : List Event) :
    Event.withoutDetails (Tree.announce rule events) = Event.withoutDetails events := by
  have hends :
      Tree.announce rule events = [.announced rule, .entered] ++ (events ++ [.exited]) := rfl
  have hbefore : Event.withoutDetails [.announced rule, .entered] = [] := rfl
  have hbehind : Event.withoutDetails [.exited] = [] := rfl
  rw [hends, Event.withoutDetails_append, Event.withoutDetails_append, hbefore, hbehind,
    List.append_nil, List.nil_append]

theorem ofText_events
    {settings : Settings} {rule : String}
    (h : settings.lengthError? rule = none) :
    (Tree.ofText settings rule : Except RuleError (Tree δ) × List Event).2 =
      let events :=
        (Tree.ofSource settings.trace (Scanner.ofString rule) :
          Except RuleError (Tree δ) × List Event).2
      if settings.trace then Tree.announce rule events else events := by
  rw [Tree.ofText, h]

/-- A traced reading of a text shows what an untraced one shows, and details. -/
theorem withoutDetails_ofText
    (settings : Settings)
    (rule : String) :
    Event.withoutDetails
        (Tree.ofText (settings.withTrace true) rule : Except RuleError (Tree δ) × List Event).2 =
      (Tree.ofText (settings.withTrace false) rule : Except RuleError (Tree δ) × List Event).2 := by
  have hlength (trace : Bool) :
      (settings.withTrace trace).lengthError? rule = settings.lengthError? rule := rfl
  cases herror : settings.lengthError? rule with
  | some error =>
      rw [ofText_of_lengthError ((hlength true).trans herror),
        ofText_of_lengthError ((hlength false).trans herror)]
      rfl
  | none =>
      rw [ofText_events ((hlength true).trans herror),
        ofText_events ((hlength false).trans herror)]
      exact (withoutDetails_announce rule _).trans (withoutDetails_ofSource _)

/-- A text is too long when it has more bytes than the settings allow, and for nothing else. -/
theorem ofText_eq_tooLong_iff
    {settings : Settings} {rule : String} {length limit : Nat} :
    (Tree.ofText settings rule : Except RuleError (Tree δ) × List Event).1 =
        .error (.tooLong length limit) ↔
      settings.maxLength = some limit ∧ length = rule.utf8ByteSize ∧ limit < length := by
  cases herror : settings.lengthError? rule with
  | some error =>
      obtain ⟨greatest, hgreatest, hlt, rfl⟩ := Settings.lengthError?_eq_some_iff.mp herror
      rw [ofText_of_lengthError herror, hgreatest]
      constructor
      · rintro ⟨⟩
        exact ⟨rfl, rfl, hlt⟩
      · rintro ⟨⟨⟩, rfl, -⟩
        rfl
  | none =>
      rw [ofText_outcome herror, parse_eq_outcome]
      constructor
      · intro houtcome
        exact absurd houtcome (outcome_ne_tooLong false _ length limit)
      · rintro ⟨hlimit, rfl, hlt⟩
        have hsome := Settings.lengthError?_eq_some_iff.mpr ⟨limit, hlimit, hlt, rfl⟩
        rw [herror] at hsome
        cases hsome

/--
Settings decide whether a text is too long and what is shown, and nothing else.
A text is too long exactly if it has more bytes than its settings allow, and
then nothing is shown; otherwise it comes to what it is read as. The log of a
traced reading is that of the untraced one with details in it. Readers of any
source, in any state, come to the same outcomes with a trace and without, and
to the same state, after any number of requests, and what the traced one has
shown besides details is what the untraced one has shown.
-/
theorem settings_only_observe :
    (∀ (settings : Settings) (rule : String)
        (outcome : Except RuleError (Tree δ)) (events : List Event),
      Tree.ofText settings rule = (outcome, events) →
      (∀ length limit,
        outcome = .error (.tooLong length limit) ↔
          settings.maxLength = some limit ∧ length = rule.utf8ByteSize ∧ limit < length) ∧
      (∀ length limit, outcome = .error (.tooLong length limit) → events = []) ∧
      ((∀ length limit, outcome ≠ .error (.tooLong length limit)) →
        outcome = Tree.parse rule)) ∧
    (∀ (settings : Settings) (rule : String),
      Event.withoutDetails
          (Tree.ofText (settings.withTrace true) rule : Except RuleError (Tree δ) × _).2 =
        (Tree.ofText (settings.withTrace false) rule : Except RuleError (Tree δ) × _).2) ∧
    (∀ {σ : Type} [Source σ] (source : σ),
      Reader.start source true =
        (Reader.start source false).map fun reader => reader.withTrace true) ∧
    (∀ {σ : Type} [Source σ] (reader : Reader σ) (count : Nat),
      let traced := reader.withTrace true
      let untraced := reader.withTrace false
      (traced.request δ count).outcome = (untraced.request δ count).outcome ∧
      traced.afterRequests δ count = (untraced.afterRequests δ count).withTrace true ∧
      Event.withoutDetails (traced.log δ count) = untraced.log δ count) := by
  refine ⟨?_, withoutDetails_ofText, fun source => Reader.start_withTrace source, ?_⟩
  · intro settings rule outcome events hread
    have houtcome : (Tree.ofText settings rule).1 = outcome := congrArg Prod.fst hread
    have htooLong (length limit : Nat) :
        outcome = .error (.tooLong length limit) ↔
          settings.maxLength = some limit ∧ length = rule.utf8ByteSize ∧ limit < length := by
      rw [← houtcome]
      exact ofText_eq_tooLong_iff
    refine ⟨htooLong, ?_, ?_⟩
    · intro length limit herror
      obtain ⟨hlimit, rfl, hlt⟩ := (htooLong length limit).mp herror
      have hlength := Settings.lengthError?_eq_some_iff.mpr ⟨limit, hlimit, hlt, rfl⟩
      rw [ofText_of_lengthError hlength] at hread
      exact (congrArg Prod.snd hread).symm
    · intro hwithin
      have hlength : settings.lengthError? rule = none := by
        refine Option.eq_none_iff_forall_ne_some.mpr fun error herror => ?_
        obtain ⟨limit, hlimit, hlt, rfl⟩ := Settings.lengthError?_eq_some_iff.mp herror
        exact hwithin _ limit ((htooLong _ limit).mpr ⟨hlimit, rfl, hlt⟩)
      rw [← houtcome, ofText_outcome hlength]
  · intro σ _ reader count traced untraced
    refine ⟨?_, ?_, reader.withoutDetails_log count⟩
    · rw [Reader.request_withTrace, Reader.request_withTrace, (Reader.read_withTrace _ _).1,
        (Reader.read_withTrace _ _).1]
    · rw [Reader.afterRequests_withTrace, Reader.afterRequests_withTrace]
      rfl

/-- A wide blank has three bytes, and one byte too many leaves nothing to be shown. -/
theorem settings_only_observe_wide_blank :
    let rule := "x=\u2003nil"
    let tree : Tree Unit := Tree.ofParts "x" .assign .nil
    let reader : Reader Queue := ⟨⟨[.finish, .piece .nil], 1⟩, .piece (.attr "x"), 0, false⟩
    Tree.ofText ⟨true, some 7⟩ rule =
        ((.error (.tooLong 8 7), []) : Except RuleError (Tree Unit) × List Event) ∧
      (Tree.ofText ⟨true, some 8⟩ rule).1 = .ok tree ∧
      Event.withoutDetails ((reader.withTrace true).log Unit 2) = reader.log Unit 2 ∧
      (reader.withTrace true).afterRequests Unit 2 =
        (reader.afterRequests Unit 2).withTrace true := by
  intro rule tree reader
  obtain ⟨houtcome, -, -, hrequests⟩ := settings_only_observe (δ := Unit)
  rcases hshort : (Tree.ofText ⟨true, some 7⟩ rule : Except RuleError (Tree Unit) × List Event)
    with ⟨short, shown⟩
  rcases hlong : (Tree.ofText ⟨true, some 8⟩ rule : Except RuleError (Tree Unit) × List Event)
    with ⟨long, events⟩
  obtain ⟨htooLong, hsilent, -⟩ := houtcome _ _ _ _ hshort
  obtain ⟨hlength, -, hread⟩ := houtcome _ _ _ _ hlong
  have hlimit : short = .error (.tooLong 8 7) := (htooLong 8 7).mpr (by decide +kernel)
  have hparse : (Tree.parse rule : Except RuleError (Tree Unit)) = .ok tree := by
    decide +kernel
  have hwithin (length limit : Nat) : long ≠ .error (.tooLong length limit) := by
    rw [Ne, hlength length limit]
    rintro ⟨⟨⟩, rfl, hlt⟩
    exact absurd hlt (by decide +kernel)
  refine ⟨?_, ?_, (hrequests reader 2).2.2, (hrequests reader 2).2.1⟩
  · rw [hlimit, hsilent 8 7 hlimit]
  · rw [hread hwithin, hparse]

end Rule

end LayoutRules
