import LayoutRules.Proofs.Tree.Parts
import LayoutRules.Rule.Reader

/-!
# The courses that a reading may take

A request for a rule ends in one of nine ways: there is nothing to read, one
of the three pieces is missing, the source fails while one of them is given
up, something follows the rule, or the rule is complete. The relation Course
says for each of them what the outcome is, where the reader then stands, and
what a traced reading shows, so that later proofs go by cases on it and do
not open the readings.
-/

namespace LayoutRules

namespace Reader

variable {σ δ : Type}

/-- What the giving up of the current token shows. -/
def shifting (reader : Reader σ) : Event :=
  .shifted reader.current reader.position

/-- The error of a current token that is not the one expected. -/
def misplaced (reader : Reader σ) (expected : Expectation) : RuleError :=
  .unexpected expected reader.current.label reader.position

/-- What only a traced reading shows. -/
def traced (reader : Reader σ) (events : List Event) : List Event :=
  if reader.trace then events else []

theorem traced_append
    (reader : Reader σ)
    (first second : List Event) :
    traced reader first ++ traced reader second = traced reader (first ++ second) := by
  cases htrace : reader.trace <;> simp [traced, htrace]

variable [Source σ]

/-- The current token is given up for the next one. -/
def Shifts (reader after : Reader σ) : Prop :=
  ∃ source token,
    Source.next reader.source = (.ok token, source) ∧
    after = ⟨source, token, reader.position + 1, reader.trace⟩

/-- The source fails, and nothing but the source has moved. -/
def Loses
    (reader : Reader σ)
    (error : SourceError)
    (after : Reader σ) :
    Prop :=
  ∃ source,
    Source.next reader.source = (.error error, source) ∧
    after = { reader with source }

/-- Either the current token can be given up or the source fails. -/
theorem shifts_or_loses
    (reader : Reader σ) :
    (∃ after, Shifts reader after) ∨ ∃ error after, Loses reader error after := by
  rcases hnext : Source.next reader.source with ⟨error | token, source⟩
  · exact Or.inr ⟨error, _, source, hnext, rfl⟩
  · exact Or.inl ⟨_, source, token, hnext, rfl⟩

theorem Shifts.trace_eq
    {reader after : Reader σ}
    (h : Shifts reader after) :
    after.trace = reader.trace := by
  obtain ⟨source, token, -, rfl⟩ := h
  rfl

theorem Shifts.traced_eq
    {reader after : Reader σ}
    (h : Shifts reader after)
    (events : List Event) :
    traced after events = traced reader events := by
  rw [traced, traced, h.trace_eq]

theorem Loses.traced_eq
    {reader after : Reader σ} {error : SourceError}
    (h : Loses reader error after)
    (events : List Event) :
    traced after events = traced reader events := by
  obtain ⟨source, -, rfl⟩ := h
  rfl

/--
The ways in which a request for a rule ends, with the outcome, the reader
after it and what it shows.
-/
inductive Course (reader : Reader σ) : Step σ (Tree δ) → Prop
  | empty
      (hfinish : reader.current = .finish) :
      Course reader ⟨.error .empty, reader, []⟩
  | noAttribute
      (hpiece : reader.current ≠ .finish)
      (hattr : reader.current.isAttribute = false) :
      Course reader ⟨.error (reader.misplaced .attr), reader, []⟩
  | attributeLost
      {name : String} {error : SourceError} {after : Reader σ}
      (hattr : reader.current = .piece (.attr name))
      (hloses : reader.Loses error after) :
      Course reader ⟨.error (.ofSource error), after, []⟩
  | noOperator
      {name : String} {first : Reader σ}
      (hattr : reader.current = .piece (.attr name))
      (hfirst : reader.Shifts first)
      (hoperator : first.current.isOperator = false) :
      Course reader
        ⟨.error (first.misplaced .operator), first,
          reader.traced
            [reader.shifting, .reduced .attr, .abandoned (.ofContent (.attr name))]⟩
  | operatorLost
      {name : String} {op : Operator} {error : SourceError} {first after : Reader σ}
      (hattr : reader.current = .piece (.attr name))
      (hfirst : reader.Shifts first)
      (hoperator : first.current = .piece (.operator op))
      (hloses : first.Loses error after) :
      Course reader
        ⟨.error (.ofSource error), after,
          reader.traced
            [reader.shifting, .reduced .attr, .abandoned (.ofContent (.attr name))]⟩
  | noValue
      {name : String} {op : Operator} {first second : Reader σ}
      (hattr : reader.current = .piece (.attr name))
      (hfirst : reader.Shifts first)
      (hoperator : first.current = .piece (.operator op))
      (hsecond : first.Shifts second)
      (hvalue : second.current.isValue = false) :
      Course reader
        ⟨.error (second.misplaced .value), second,
          reader.traced
            [reader.shifting, .reduced .attr, first.shifting,
              .abandoned (.ofContent (.attr name))]⟩
  | valueLost
      {name : String} {op : Operator} {value : Content}
      {error : SourceError} {first second after : Reader σ}
      (hattr : reader.current = .piece (.attr name))
      (hfirst : reader.Shifts first)
      (hoperator : first.current = .piece (.operator op))
      (hsecond : first.Shifts second)
      (hvalue : second.current = .piece value)
      (hisValue : value.category.isValue = true)
      (hloses : second.Loses error after) :
      Course reader
        ⟨.error (.ofSource error), after,
          reader.traced
            [reader.shifting, .reduced .attr, first.shifting,
              .abandoned (.ofContent (.attr name))]⟩
  | trailing
      {name : String} {op : Operator} {value : Content}
      {first second third : Reader σ}
      (hattr : reader.current = .piece (.attr name))
      (hfirst : reader.Shifts first)
      (hoperator : first.current = .piece (.operator op))
      (hsecond : first.Shifts second)
      (hvalue : second.current = .piece value)
      (hisValue : value.category.isValue = true)
      (hthird : second.Shifts third)
      (htrailing : third.current ≠ .finish) :
      Course reader
        ⟨.error (.trailing third.current.label third.position), third,
          reader.traced
            [reader.shifting, .reduced .attr, first.shifting,
              second.shifting, .reduced value.category,
              .abandoned (.ofContent (.attr name) + .ofContent value)]⟩
  | rule
      {name : String} {op : Operator} {value : Content}
      {first second third : Reader σ}
      (hattr : reader.current = .piece (.attr name))
      (hfirst : reader.Shifts first)
      (hoperator : first.current = .piece (.operator op))
      (hsecond : first.Shifts second)
      (hvalue : second.current = .piece value)
      (hisValue : value.category.isValue = true)
      (hthird : second.Shifts third)
      (hfinish : third.current = .finish) :
      Course reader
        ⟨.ok (Tree.ofParts name op value), third,
          reader.traced
            [reader.shifting, .reduced .attr, first.shifting,
              second.shifting, .reduced value.category,
              .accepted (.operator op)]⟩

end Reader

namespace Reading

open Reader

variable {σ α β δ : Type}

theorem bind_of_ok
    {first : Reading σ α} {second : α → Reading σ β}
    {reader after : Reader σ} {a : α} {events : List Event}
    (h : first reader = ⟨.ok a, after, events⟩) :
    (first >>= second) reader =
      ⟨(second a after).outcome, (second a after).reader,
        events ++ (second a after).events⟩ := by
  simp only [bind, h]

theorem bind_of_error
    {first : Reading σ α} {second : α → Reading σ β}
    {reader after : Reader σ} {error : RuleError} {events : List Event}
    (h : first reader = ⟨.error error, after, events⟩) :
    (first >>= second) reader = ⟨.error error, after, events⟩ := by
  simp only [bind, h]

/-- A reading that begins by looking at the current token. -/
theorem current_bind
    (second : Token → Reading σ β)
    (reader : Reader σ) :
    (current >>= second) reader = second reader.current reader := by
  have hcurrent : current reader = ⟨.ok reader.current, reader, []⟩ := rfl
  exact bind_of_ok hcurrent

theorem orAbandon_of_ok
    {reading : Reading σ α} {reader after : Reader σ} {a : α} {events : List Event}
    (h : reading reader = ⟨.ok a, after, events⟩)
    (built : List (Tree δ)) :
    orAbandon reading built reader = ⟨.ok a, after, events⟩ := by
  simp only [orAbandon, h]

theorem orAbandon_of_error
    {reading : Reading σ α} {reader after : Reader σ}
    {error : RuleError} {events : List Event}
    (h : reading reader = ⟨.error error, after, events⟩)
    (built : List (Tree δ)) :
    orAbandon reading built reader =
      ⟨.error error, after,
        events ++
          after.traced
            [.abandoned (built.foldl (fun sum tree => sum + tree.released) .nothing)]⟩ := by
  simp only [orAbandon, h, traced]

/-- What is given back behind an attribute is the attribute. -/
theorem orAbandon_attr
    {reading : Reading σ α} {reader after : Reader σ}
    {error : RuleError} {events : List Event}
    (name : String)
    (h : reading reader = ⟨.error error, after, events⟩) :
    orAbandon reading [(.leaf (.attr name) none : Tree δ)] reader =
      ⟨.error error, after,
        events ++ after.traced [.abandoned (.ofContent (.attr name))]⟩ := by
  rw [orAbandon_of_error h]
  simp only [List.foldl_cons, List.foldl_nil, Tree.released, Released.nothing_add]

/-- A piece that is no operator becomes a leaf. -/
theorem reduce_piece
    {content : Content}
    (reader : Reader σ)
    (h : content.category.isOperator = false) :
    reduce (.piece content) reader =
      ⟨.ok (.leaf content none : Tree δ), reader,
        reader.traced [.reduced content.category]⟩ := by
  have hnode :
      node content (none : Option (Tree δ)) none reader =
        ⟨.ok (.leaf content none), reader, []⟩ := by
    simp only [node, Tree.create_leaf h]
  refine (bind_of_ok hnode).trans ?_
  cases htrace : reader.trace <;>
    simp [note, traced, htrace, bind, pure, Tree.category, Tree.content]

section Pieces

variable [Source σ]

theorem shift_of_shifts
    {reader after : Reader σ}
    (h : reader.Shifts after) :
    shift reader = ⟨.ok reader.current, after, reader.traced [reader.shifting]⟩ := by
  obtain ⟨source, token, hnext, rfl⟩ := h
  simp only [shift, hnext]
  rfl

theorem shift_of_loses
    {reader after : Reader σ} {error : SourceError}
    (h : reader.Loses error after) :
    shift reader = ⟨.error (.ofSource error), after, []⟩ := by
  obtain ⟨source, hnext, rfl⟩ := h
  simp only [shift, hnext]

/-- The piece that is given up becomes a leaf once the next token is there. -/
theorem shift_reduce
    {reader after : Reader σ} {content : Content}
    (hcurrent : reader.current = .piece content)
    (hleaf : content.category.isOperator = false)
    (hshifts : reader.Shifts after) :
    (shift >>= reduce) reader =
      ⟨.ok (.leaf content none : Tree δ), after,
        reader.traced [reader.shifting, .reduced content.category]⟩ := by
  rw [bind_of_ok (shift_of_shifts hshifts), hcurrent, reduce_piece after hleaf]
  rw [hshifts.traced_eq, traced_append]
  rfl

theorem attr_of_missing
    {reader : Reader σ}
    (h : reader.current.isAttribute = false) :
    (attr : Reading σ (Tree δ)) reader =
      ⟨.error (reader.misplaced .attr), reader, []⟩ := by
  refine (current_bind _ reader).trans ?_
  simp only [h]
  rfl

theorem attr_of_shifts
    {reader after : Reader σ} {name : String}
    (hattr : reader.current = .piece (.attr name))
    (hshifts : reader.Shifts after) :
    attr reader =
      ⟨.ok (.leaf (.attr name) none : Tree δ), after,
        reader.traced [reader.shifting, .reduced .attr]⟩ := by
  refine (current_bind _ reader).trans ?_
  simp only [hattr, Token.isAttribute, if_true]
  exact shift_reduce hattr rfl hshifts

theorem attr_of_loses
    {reader after : Reader σ} {name : String} {error : SourceError}
    (hattr : reader.current = .piece (.attr name))
    (hloses : reader.Loses error after) :
    (attr : Reading σ (Tree δ)) reader = ⟨.error (.ofSource error), after, []⟩ := by
  refine (current_bind _ reader).trans ?_
  simp only [hattr, Token.isAttribute, if_true]
  exact bind_of_error (shift_of_loses hloses)

theorem operator_of_missing
    {reader : Reader σ}
    (h : reader.current.isOperator = false) :
    operator reader = ⟨.error (reader.misplaced .operator), reader, []⟩ := by
  refine (current_bind _ reader).trans ?_
  simp only [Token.operator?_eq_none_iff.mpr h]
  rfl

theorem operator_of_shifts
    {reader after : Reader σ} {op : Operator}
    (hoperator : reader.current = .piece (.operator op))
    (hshifts : reader.Shifts after) :
    operator reader = ⟨.ok op, after, reader.traced [reader.shifting]⟩ := by
  refine (current_bind _ reader).trans ?_
  simp only [Token.operator?_eq_some_iff.mpr hoperator]
  rw [bind_of_ok (shift_of_shifts hshifts)]
  simp [pure]

theorem operator_of_loses
    {reader after : Reader σ} {op : Operator} {error : SourceError}
    (hoperator : reader.current = .piece (.operator op))
    (hloses : reader.Loses error after) :
    operator reader = ⟨.error (.ofSource error), after, []⟩ := by
  refine (current_bind _ reader).trans ?_
  simp only [Token.operator?_eq_some_iff.mpr hoperator]
  exact bind_of_error (shift_of_loses hloses)

theorem value_of_missing
    {reader : Reader σ}
    (h : reader.current.isValue = false) :
    (value : Reading σ (Tree δ)) reader =
      ⟨.error (reader.misplaced .value), reader, []⟩ := by
  refine (current_bind _ reader).trans ?_
  simp only [h]
  rfl

theorem value_of_shifts
    {reader after : Reader σ} {content : Content}
    (hvalue : reader.current = .piece content)
    (hisValue : content.category.isValue = true)
    (hshifts : reader.Shifts after) :
    value reader =
      ⟨.ok (.leaf content none : Tree δ), after,
        reader.traced [reader.shifting, .reduced content.category]⟩ := by
  refine (current_bind _ reader).trans ?_
  simp only [hvalue, Token.isValue_piece, hisValue, if_true]
  exact shift_reduce hvalue (Category.isOperator_eq_false_of_isValue hisValue) hshifts

theorem value_of_loses
    {reader after : Reader σ} {content : Content} {error : SourceError}
    (hvalue : reader.current = .piece content)
    (hisValue : content.category.isValue = true)
    (hloses : reader.Loses error after) :
    (value : Reading σ (Tree δ)) reader = ⟨.error (.ofSource error), after, []⟩ := by
  refine (current_bind _ reader).trans ?_
  simp only [hvalue, Token.isValue_piece, hisValue, if_true]
  exact bind_of_error (shift_of_loses hloses)

end Pieces

/-- A rule whose leaves and operator are there. -/
def whole
    (left : Tree δ)
    (op : Operator)
    (right : Tree δ) :
    Reading σ (Tree δ) := do
  orAbandon finish [left, right]
  let root ← node (.operator op) (some left) (some right)
  note (.accepted root.category)
  pure root

theorem whole_of_finish
    {reader : Reader σ} {value : Content}
    (name : String)
    (op : Operator)
    (hisValue : value.category.isValue = true)
    (hfinish : reader.current = .finish) :
    whole (.leaf (.attr name) none) op (.leaf value none) reader =
      ⟨.ok (Tree.ofParts name op value : Tree δ), reader,
        reader.traced [.accepted (.operator op)]⟩ := by
  have hend : finish reader = ⟨.ok (), reader, []⟩ := by
    simp only [finish, hfinish, if_true]
  have hnode :
      node (.operator op) (some (.leaf (.attr name) none : Tree δ))
          (some (.leaf value none)) reader =
        ⟨.ok (Tree.ofParts name op value), reader, []⟩ := by
    have hcreate :
        Tree.create (.operator op) (some (.leaf (.attr name) none : Tree δ))
            (some (.leaf value none)) =
          .ok (Tree.ofParts name op value) :=
      Tree.create_rule op rfl hisValue
    simp only [node, hcreate]
  refine (bind_of_ok (orAbandon_of_ok hend _)).trans ?_
  rw [bind_of_ok hnode]
  cases htrace : reader.trace <;>
    simp [note, traced, htrace, bind, pure, Tree.category, Tree.content, Tree.ofParts,
      Content.category]

theorem whole_of_trailing
    {reader : Reader σ}
    (left : Tree δ)
    (op : Operator)
    (right : Tree δ)
    (h : reader.current ≠ .finish) :
    whole left op right reader =
      ⟨.error (.trailing reader.current.label reader.position), reader,
        reader.traced [.abandoned (.nothing + left.released + right.released)]⟩ := by
  have hend :
      finish reader =
        ⟨.error (.trailing reader.current.label reader.position), reader, []⟩ := by
    simp only [finish, h, if_false]
  exact bind_of_error (orAbandon_of_error hend [left, right])

section Course

variable [Source σ]

theorem rule_of_piece
    {reader : Reader σ}
    (h : reader.current ≠ .finish) :
    (rule : Reading σ (Tree δ)) reader =
      (attr >>= fun left =>
        orAbandon operator [left] >>= fun op =>
          orAbandon value [left] >>= fun right => whole left op right) reader := by
  refine (current_bind _ reader).trans ?_
  simp only [h, if_false]
  rfl

/-- Each course is what the request comes to, so at most one of them can be taken. -/
theorem rule_eq_of_course
    {reader : Reader σ} {step : Step σ (Tree δ)}
    (h : Course reader step) :
    rule reader = step := by
  have hpiece {name : String} (hattr : reader.current = .piece (.attr name)) :
      reader.current ≠ .finish := by
    rw [hattr]
    exact Token.noConfusion
  -- The readings are taken in turn; the first that fails ends the course, and
  -- what it shows is shown under the trace of the reader at its start.
  cases h with
  | empty hfinish =>
      refine (current_bind _ reader).trans ?_
      simp only [hfinish, if_true]
      rfl
  | noAttribute hpiece hattr =>
      rw [rule_of_piece hpiece, bind_of_error (attr_of_missing hattr)]
  | attributeLost hattr hloses =>
      rw [rule_of_piece (hpiece hattr), bind_of_error (attr_of_loses hattr hloses)]
  | @noOperator name first hattr hfirst hoperator =>
      rw [rule_of_piece (hpiece hattr), bind_of_ok (attr_of_shifts hattr hfirst),
        bind_of_error (orAbandon_attr name (operator_of_missing hoperator))]
      simp only [hfirst.traced_eq, List.nil_append, traced_append]
      rfl
  | @operatorLost name op error first after hattr hfirst hoperator hloses =>
      rw [rule_of_piece (hpiece hattr), bind_of_ok (attr_of_shifts hattr hfirst),
        bind_of_error (orAbandon_attr name (operator_of_loses hoperator hloses))]
      simp only [hloses.traced_eq, hfirst.traced_eq, List.nil_append, traced_append]
      rfl
  | @noValue name op first second hattr hfirst hoperator hsecond hvalue =>
      rw [rule_of_piece (hpiece hattr), bind_of_ok (attr_of_shifts hattr hfirst),
        bind_of_ok (orAbandon_of_ok (operator_of_shifts hoperator hsecond) _),
        bind_of_error (orAbandon_attr name (value_of_missing hvalue))]
      simp only [hsecond.traced_eq, hfirst.traced_eq, List.nil_append, traced_append]
      rfl
  | @valueLost name op value error first second after hattr hfirst hoperator hsecond
      hvalue hisValue hloses =>
      rw [rule_of_piece (hpiece hattr), bind_of_ok (attr_of_shifts hattr hfirst),
        bind_of_ok (orAbandon_of_ok (operator_of_shifts hoperator hsecond) _),
        bind_of_error (orAbandon_attr name (value_of_loses hvalue hisValue hloses))]
      simp only [hloses.traced_eq, hsecond.traced_eq, hfirst.traced_eq, List.nil_append,
        traced_append]
      rfl
  | @trailing name op value first second third hattr hfirst hoperator hsecond hvalue
      hisValue hthird htrailing =>
      rw [rule_of_piece (hpiece hattr), bind_of_ok (attr_of_shifts hattr hfirst),
        bind_of_ok (orAbandon_of_ok (operator_of_shifts hoperator hsecond) _),
        bind_of_ok (orAbandon_of_ok (value_of_shifts hvalue hisValue hthird) _),
        whole_of_trailing _ op _ htrailing]
      simp only [hthird.traced_eq, hsecond.traced_eq, hfirst.traced_eq, traced_append,
        Tree.released, Released.nothing_add]
      rfl
  | @rule name op value first second third hattr hfirst hoperator hsecond hvalue
      hisValue hthird hfinish =>
      rw [rule_of_piece (hpiece hattr), bind_of_ok (attr_of_shifts hattr hfirst),
        bind_of_ok (orAbandon_of_ok (operator_of_shifts hoperator hsecond) _),
        bind_of_ok (orAbandon_of_ok (value_of_shifts hvalue hisValue hthird) _),
        whole_of_finish name op hisValue hfinish]
      simp only [hthird.traced_eq, hsecond.traced_eq, hfirst.traced_eq, traced_append]
      rfl

/-- At least one of the courses can be taken from every reader. -/
theorem exists_course
    (reader : Reader σ) :
    ∃ step : Step σ (Tree δ), Course reader step := by
  by_cases hpiece : reader.current = .finish
  · exact ⟨_, .empty hpiece⟩
  rcases hattr : reader.current.isAttribute with _ | _
  · exact ⟨_, .noAttribute hpiece hattr⟩
  obtain ⟨name, hattr⟩ := Token.isAttribute_iff.mp hattr
  rcases shifts_or_loses reader with ⟨first, hfirst⟩ | ⟨error, after, hloses⟩
  case inr => exact ⟨_, .attributeLost hattr hloses⟩
  rcases hop : first.current.operator? with _ | op
  · exact ⟨_, .noOperator hattr hfirst (Token.operator?_eq_none_iff.mp hop)⟩
  have hoperator := Token.operator?_eq_some_iff.mp hop
  rcases shifts_or_loses first with ⟨second, hsecond⟩ | ⟨error, after, hloses⟩
  case inr => exact ⟨_, .operatorLost hattr hfirst hoperator hloses⟩
  rcases hisValue : second.current.isValue with _ | _
  · exact ⟨_, .noValue hattr hfirst hoperator hsecond hisValue⟩
  obtain ⟨content, hvalue, hisValue⟩ := Token.isValue_iff.mp hisValue
  rcases shifts_or_loses second with ⟨third, hthird⟩ | ⟨error, after, hloses⟩
  case inr => exact ⟨_, .valueLost hattr hfirst hoperator hsecond hvalue hisValue hloses⟩
  by_cases hfinish : third.current = .finish
  · exact ⟨_, .rule hattr hfirst hoperator hsecond hvalue hisValue hthird hfinish⟩
  · exact ⟨_, .trailing hattr hfirst hoperator hsecond hvalue hisValue hthird hfinish⟩

/-- Every request for a rule takes one of the courses. -/
theorem course_rule
    (reader : Reader σ) :
    Course reader (rule reader : Step σ (Tree δ)) := by
  obtain ⟨step, hcourse⟩ := exists_course (δ := δ) reader
  rwa [rule_eq_of_course hcourse]

end Course

/-- Showing a failure changes neither the outcome nor the reader. -/
theorem shown_outcome
    (reading : Reading σ α)
    (reader : Reader σ) :
    (shown reading reader).outcome = (reading reader).outcome := by
  rcases hstep : reading reader with ⟨error | a, after, events⟩ <;>
    simp only [shown, hstep]

end Reading

namespace Tree

variable {σ δ : Type} [Source σ]

theorem ofSource_of_error
    {source : σ} {error : SourceError}
    (trace : Bool)
    (h : (Source.next source).1 = .error error) :
    (ofSource trace source : Except RuleError (Tree δ) × List Event) =
      (.error (.ofSource error), []) := by
  rcases hnext : Source.next source with ⟨answer, after⟩
  rw [hnext] at h
  subst h
  simp only [ofSource, Reader.start, hnext]

/-- After a first token the tree is what the first request for a rule comes to. -/
theorem ofSource_outcome
    {source : σ} {first : Token}
    (trace : Bool)
    (h : (Source.next source).1 = .ok first) :
    (ofSource trace source : Except RuleError (Tree δ) × List Event).1 =
      (Reading.rule ⟨(Source.next source).2, first, 0, trace⟩ :
        Step σ (Tree δ)).outcome := by
  rcases hnext : Source.next source with ⟨answer, after⟩
  rw [hnext] at h
  subst h
  simp only [ofSource, Reader.start, hnext, Reader.read, Reading.shown_outcome]

end Tree

end LayoutRules
