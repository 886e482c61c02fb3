import LayoutRules.Proofs.Rule.Phrase
import LayoutRules.Proofs.Rule.Requests
import LayoutRules.Proofs.Source.Agreement

/-!
# Readings of sources that answer alike

What a reading comes to depends on its source only through the source's
answers. Two readers are alike if their sources agree and they stand at the
same token; they stay alike at every request, whether it fails or not, and no
request tells them apart.

What is shown is compared through the eyes of an observer who sees some kinds
of events. One who does not see the details may compare a traced reader with
an untraced one.
-/

namespace LayoutRules

/-- Whether an event is only shown by traced readings. -/
def Event.isDetail : Event → Bool
  | .announced _ => true
  | .entered => true
  | .exited => true
  | .shifted _ _ => true
  | .reduced _ => true
  | .accepted _ => true
  | .abandoned _ => true
  | .ruleRejected _ => false
  | .nodeRejected _ => false
  | .treeReleased _ => false

variable {σ τ α β δ : Type} [Source σ] [Source τ] {seen : Event → Bool}

/-- Readers that an observer of some events cannot tell apart by what comes of them. -/
structure Reader.Alike
    (seen : Event → Bool)
    (first : Reader σ)
    (second : Reader τ) :
    Prop where
  source : Source.Agree first.source second.source
  current : first.current = second.current
  position : first.position = second.position
  trace :
    first.trace = second.trace ∨
      ∀ event : Event, event.isDetail = true → seen event = false

/-- Readings that came to the same, in what an observer sees of them. -/
structure Step.Alike
    (seen : Event → Bool)
    (first : Step σ α)
    (second : Step τ α) :
    Prop where
  outcome : first.outcome = second.outcome
  reader : first.reader.Alike seen second.reader
  events : first.events.filter seen = second.events.filter seen

/-- Readings that come to the same for all readers that are alike. -/
def Reading.Alike
    (seen : Event → Bool)
    (first : Reading σ α)
    (second : Reading τ α) :
    Prop :=
  ∀ (r : Reader σ) (s : Reader τ), r.Alike seen s → (first r).Alike seen (second s)

namespace Reader

variable {r : Reader σ} {s : Reader τ}

/-- What only traced readings show is seen of both or of neither. -/
theorem Alike.filter_traced
    (h : r.Alike seen s)
    {event : Event}
    (hdetail : event.isDetail = true) :
    (r.traced [event]).filter seen = (s.traced [event]).filter seen := by
  rcases h.trace with htrace | hunseen
  · rw [traced, traced, htrace]
  -- The readers may differ in what they show, but nobody sees it.
  · have hevent := hunseen event hdetail
    unfold traced
    cases r.trace <;> cases s.trace <;> simp [hevent]

end Reader

namespace Reading

open Reader (traced)

theorem Alike.pure
    (a : α) :
    Alike seen (Pure.pure a : Reading σ α) (Pure.pure a : Reading τ α) :=
  fun _ _ h => ⟨rfl, h, rfl⟩

theorem Alike.bind
    {first : Reading σ α} {first' : Reading τ α}
    {second : α → Reading σ β} {second' : α → Reading τ β}
    (hfirst : Alike seen first first')
    (hsecond : ∀ a, Alike seen (second a) (second' a)) :
    Alike seen (first >>= second) (first' >>= second') := by
  intro r s h
  have hstep := hfirst r s h
  rcases hr : first r with ⟨outcome, after, events⟩
  rcases hs : first' s with ⟨outcome', after', events'⟩
  rw [hr, hs] at hstep
  obtain ⟨rfl, hreader, hevents⟩ := hstep
  cases outcome with
  | error error =>
      rw [bind_of_error hr, bind_of_error hs]
      exact ⟨rfl, hreader, hevents⟩
  | ok a =>
      rw [bind_of_ok hr, bind_of_ok hs]
      obtain ⟨houtcome, hlast, hothers⟩ := hsecond a after after' hreader
      refine ⟨houtcome, hlast, ?_⟩
      rw [List.filter_append, List.filter_append, hevents, hothers]

theorem alike_current :
    Alike seen (current : Reading σ Token) (current : Reading τ Token) :=
  fun _ _ h => ⟨congrArg Except.ok h.current, h, rfl⟩

theorem alike_fail
    (error : RuleError) :
    Alike seen (fail error : Reading σ α) (fail error : Reading τ α) :=
  fun _ _ h => ⟨rfl, h, rfl⟩

theorem alike_unexpected
    (expected : Expectation) :
    Alike seen (unexpected expected : Reading σ α) (unexpected expected : Reading τ α) := by
  intro r s h
  refine ⟨?_, h, rfl⟩
  rw [unexpected, unexpected, h.current, h.position]

theorem alike_note
    {event : Event}
    (hdetail : event.isDetail = true) :
    Alike seen (note event : Reading σ Unit) (note event : Reading τ Unit) :=
  fun _ _ h => ⟨rfl, h, h.filter_traced hdetail⟩

theorem alike_shift :
    Alike seen (shift : Reading σ Token) (shift : Reading τ Token) := by
  intro r s h
  have hanswer : (Source.next r.source).1 = (Source.next s.source).1 := h.source 0
  have hrest := h.source.next
  rcases hr : Source.next r.source with ⟨answer, rest⟩
  rcases hs : Source.next s.source with ⟨answer', rest'⟩
  rw [hr, hs] at hanswer hrest
  obtain rfl : answer = answer' := hanswer
  simp only [shift, hr, hs]
  cases answer with
  | error error => exact ⟨rfl, ⟨hrest, h.current, h.position, h.trace⟩, rfl⟩
  | ok token =>
      refine ⟨congrArg Except.ok h.current, ⟨hrest, rfl, ?_, h.trace⟩, ?_⟩
      · exact congrArg (· + 1) h.position
      · show (r.traced [r.shifting]).filter seen = (s.traced [s.shifting]).filter seen
        rw [Reader.shifting, Reader.shifting, ← h.current, ← h.position]
        exact h.filter_traced rfl

theorem alike_node
    (content : Content)
    (left right : Option (Tree δ)) :
    Alike seen (node content left right : Reading σ (Tree δ))
      (node content left right : Reading τ (Tree δ)) := by
  intro r s h
  unfold node
  split
  · exact ⟨rfl, h, rfl⟩
  · exact ⟨rfl, h, rfl⟩

theorem alike_reduce
    (token : Token) :
    Alike seen (reduce token : Reading σ (Tree δ)) (reduce token : Reading τ (Tree δ)) := by
  cases token with
  | piece content =>
      exact (alike_node content none none).bind fun leaf =>
        (alike_note rfl).bind fun _ => .pure leaf
  | finish =>
      intro r s h
      refine ⟨?_, h, rfl⟩
      show Except.error _ = Except.error _
      rw [h.position]

theorem alike_attr :
    Alike seen (attr : Reading σ (Tree δ)) (attr : Reading τ (Tree δ)) := by
  refine alike_current.bind fun token => ?_
  split
  · exact alike_shift.bind alike_reduce
  · exact alike_unexpected .attr

theorem alike_operator :
    Alike seen (operator : Reading σ Operator) (operator : Reading τ Operator) := by
  refine alike_current.bind fun token => ?_
  split
  · exact alike_shift.bind fun _ => .pure _
  · exact alike_unexpected .operator

theorem alike_value :
    Alike seen (value : Reading σ (Tree δ)) (value : Reading τ (Tree δ)) := by
  refine alike_current.bind fun token => ?_
  split
  · exact alike_shift.bind alike_reduce
  · exact alike_unexpected .value

theorem alike_finish :
    Alike seen (finish : Reading σ Unit) (finish : Reading τ Unit) := by
  intro r s h
  unfold finish
  rw [h.current, h.position]
  split
  · exact ⟨rfl, h, rfl⟩
  · exact ⟨rfl, h, rfl⟩

theorem Alike.orAbandon
    {reading : Reading σ α} {reading' : Reading τ α}
    (hreading : Alike seen reading reading')
    (built : List (Tree δ)) :
    Alike seen (orAbandon reading built) (orAbandon reading' built) := by
  intro r s h
  have hstep := hreading r s h
  rcases hr : reading r with ⟨outcome, after, events⟩
  rcases hs : reading' s with ⟨outcome', after', events'⟩
  rw [hr, hs] at hstep
  obtain ⟨rfl, hreader, hevents⟩ := hstep
  cases outcome with
  | error error =>
      rw [orAbandon_of_error hr, orAbandon_of_error hs]
      refine ⟨rfl, hreader, ?_⟩
      rw [List.filter_append, List.filter_append, hevents, hreader.filter_traced rfl]
  | ok a =>
      rw [orAbandon_of_ok hr, orAbandon_of_ok hs]
      exact ⟨rfl, hreader, hevents⟩

theorem alike_rule :
    Alike seen (rule : Reading σ (Tree δ)) (rule : Reading τ (Tree δ)) := by
  refine alike_current.bind fun token => ?_
  split
  · exact alike_fail .empty
  refine alike_attr.bind fun left => ?_
  refine (alike_operator.orAbandon [left]).bind fun op => ?_
  refine (alike_value.orAbandon [left]).bind fun right => ?_
  refine (alike_finish.orAbandon [left, right]).bind fun _ => ?_
  refine (alike_node (.operator op) (some left) (some right)).bind fun root => ?_
  exact (alike_note rfl).bind fun _ => .pure root

theorem Alike.shown
    {reading : Reading σ α} {reading' : Reading τ α}
    (hreading : Alike seen reading reading') :
    Alike seen (shown reading) (shown reading') := by
  intro r s h
  have hstep := hreading r s h
  rw [shown_eq, shown_eq]
  refine ⟨hstep.outcome, hstep.reader, ?_⟩
  rw [List.filter_append, List.filter_append, hstep.events, Step.rejection, Step.rejection,
    hstep.outcome]

end Reading

namespace Reader

variable {r : Reader σ} {s : Reader τ}

theorem Alike.symm
    (h : r.Alike seen s) :
    s.Alike seen r :=
  ⟨h.source.symm, h.current.symm, h.position.symm, h.trace.imp_left Eq.symm⟩

/-- A request leaves alike what was alike. -/
theorem Alike.read
    (h : r.Alike seen s) :
    (r.read : Step σ (Tree δ)).Alike seen s.read :=
  Reading.alike_rule.shown r s h

theorem Alike.afterRequests
    (h : r.Alike seen s)
    (count : Nat) :
    (r.afterRequests δ count).Alike seen (s.afterRequests δ count) := by
  induction count with
  | zero => exact h
  | succ count ih => exact ih.read.reader

/-- No request tells readers apart that are alike. -/
theorem Alike.request
    (h : r.Alike seen s)
    (index : Nat) :
    (r.request δ index).Alike seen (s.request δ index) :=
  (h.afterRequests index).read

/-- Sources that agree start readers that are alike. -/
theorem exists_start_alike
    {source : σ} {other : τ} {trace : Bool} {reader : Reader σ}
    (hagree : Source.Agree source other)
    (hstart : start source trace = .ok reader) :
    ∃ reader', start other trace = .ok reader' ∧ reader.Alike seen reader' := by
  have hanswer : (Source.next source).1 = (Source.next other).1 := hagree 0
  have hrest := hagree.next
  unfold start at hstart ⊢
  rcases hsource : Source.next source with ⟨error | first, rest⟩
  · rw [hsource] at hstart
    cases hstart
  · rcases hother : Source.next other with ⟨answer, rest'⟩
    rw [hsource] at hstart
    rw [hsource, hother] at hanswer hrest
    cases hanswer
    cases hstart
    exact ⟨_, rfl, hrest, rfl, rfl, Or.inl rfl⟩

end Reader

namespace Rule

/-- The contents fit the places from the first one on, and the finish has its place behind them. -/
def Opens (contents : List Content) : Prop :=
  contents.length ≤ 3 ∧
    ∀ index content, contents[index]? = some content →
      (Token.piece content).fits index = true

section Begins

variable {source : σ} {contents : List Content}

theorem fitsBelow_of_opens
    (hbegins : Source.Begins source contents)
    (hopens : Opens contents) :
    FitsBelow source contents.length := by
  intro place hplace
  have hcontent := List.getElem?_eq_getElem hplace
  exact ⟨_, hbegins place _ hcontent, hopens.2 place _ hcontent⟩

/-- A source that fails behind its pieces delivers no rule. -/
theorem not_fitsBelow_of_error
    {error : SourceError}
    (hbegins : Source.Begins source contents)
    (herror : Source.answer source contents.length = .error error) :
    ¬ FitsBelow source 4 := by
  intro hfits
  by_cases hlength : contents.length < 4
  -- The error stands at a place of the rule.
  · have hplace := hfits contents.length hlength
    rw [herror] at hplace
    exact not_fits_error _ _ hplace
  -- A piece stands at the last place, where only the finish may.
  · have hthree : 3 < contents.length := by omega
    have hplace := hfits 3 (by decide)
    rw [hbegins 3 _ (List.getElem?_eq_getElem hthree), fits_ok_iff] at hplace
    simp [Token.fits] at hplace

/-- Up to the first misfit only the pieces count that the source begins with. -/
theorem outcome_of_begins
    {other : τ}
    (hbegins : Source.Begins source contents)
    (hother : Source.Begins other contents)
    (hopens : ¬ Opens contents)
    (trace traced : Bool) :
    (outcome traced other : Except RuleError (Tree δ)) = outcome trace source := by
  refine outcome_congr trace traced fun place hplace hfits => ?_
  by_cases hlength : place < contents.length
  · have hcontent := List.getElem?_eq_getElem hlength
    rw [hbegins place _ hcontent, hother place _ hcontent]
  -- A place behind the pieces is asked for only if they all fit, and then they open a rule.
  · refine absurd ⟨by omega, fun index content hcontent => ?_⟩ hopens
    have hindex : index < contents.length := (List.getElem?_eq_some_iff.mp hcontent).1
    have hfit := hfits index (by omega)
    rwa [hbegins index content hcontent, fits_ok_iff] at hfit

end Begins

end Rule

namespace Reader

theorem exists_start_ofPieces
    (contents : List Content)
    (trace : Bool) :
    ∃ reader, start (Queue.ofPieces contents 0) trace = .ok reader := by
  cases contents with
  | nil => exact ⟨_, rfl⟩
  | cons content contents => exact ⟨_, rfl⟩

/-- The first request to a reader is how its source is read. -/
theorem request_zero_outcome
    {source : σ} {trace : Bool} {reader : Reader σ}
    (hstart : start source trace = .ok reader) :
    (reader.request δ 0).outcome = Rule.outcome trace source := by
  rw [Rule.outcome, Tree.ofSource, hstart]
  rfl

/-- A reader of a text that is all pieces and one of the queue of these pieces are alike. -/
theorem exists_alike_of_pieces
    (seen : Event → Bool)
    {scanner : Scanner} {contents : List Content}
    (hpieces : scanner.pieces = (contents, none))
    (trace : Bool) :
    ∃ (scanned : Reader Scanner) (queued : Reader Queue),
      start scanner trace = .ok scanned ∧
      start (Queue.ofPieces contents 0) trace = .ok queued ∧
      scanned.Alike seen queued := by
  obtain ⟨queued, hqueued⟩ := exists_start_ofPieces contents trace
  have hagree := Scanner.agree_ofPieces hpieces 0
  obtain ⟨scanned, hscanned, halike⟩ := exists_start_alike hagree.symm hqueued
  exact ⟨scanned, queued, hscanned, hqueued, halike.symm⟩

section Failing

variable {scanner : Scanner} {contents : List Content} {error : SourceError}

/-- If the pieces in front of an error may begin a rule, the error is the outcome. -/
theorem outcome_of_opens
    (hpieces : scanner.pieces = (contents, some error))
    (hopens : Rule.Opens contents)
    (trace : Bool) :
    (Rule.outcome trace scanner : Except RuleError (Tree δ)) = .error (.lexical error) := by
  obtain ⟨hbegins, herror⟩ := Scanner.answers_of_pieces_error hpieces
  have hlength : contents.length < 4 := Nat.lt_succ_of_le hopens.1
  have hfirst : Rule.FirstMisfit scanner contents.length :=
    .of_error hlength (Rule.fitsBelow_of_opens hbegins hopens) herror
  rw [Rule.outcome_of_firstMisfit trace hfirst, herror, Rule.fault,
    Scanner.ofSource_error herror]

/-- If they may not, a queue of these pieces fails in the same way. -/
theorem outcome_of_not_opens
    (hpieces : scanner.pieces = (contents, some error))
    (hopens : ¬ Rule.Opens contents)
    (trace traced : Bool) :
    ∃ cause,
      (Rule.outcome traced (Queue.ofPieces contents 0) : Except RuleError (Tree δ)) =
        .error cause ∧
      (Rule.outcome trace scanner : Except RuleError (Tree δ)) = .error cause := by
  obtain ⟨hbegins, herror⟩ := Scanner.answers_of_pieces_error hpieces
  have hsame :
      (Rule.outcome traced (Queue.ofPieces contents 0) : Except RuleError (Tree δ)) =
        Rule.outcome trace scanner :=
    Rule.outcome_of_begins hbegins (Queue.begins_ofPieces contents 0) hopens trace traced
  cases houtcome : (Rule.outcome trace scanner : Except RuleError (Tree δ)) with
  | ok tree =>
      have hfits := (Rule.ok_iff_fitsBelow trace scanner).mp ⟨tree, houtcome⟩
      exact absurd hfits (Rule.not_fitsBelow_of_error hbegins herror)
  | error cause => exact ⟨cause, hsame.trans houtcome, rfl⟩

end Failing

/--
A text that is all pieces can be read from the text or from the queue of its
pieces: at every request the outcome and what is shown are the same. A text
with an error is never read as a rule. If its pieces in front of the error are
the beginning of one, the error is the outcome, and otherwise the outcome is
that of the first request to a reader of these pieces alone.
-/
theorem queued_reading_agrees
    (text : String)
    (settings : Settings) :
    (∀ contents, Scanner.scan text = .ok contents →
      ∃ scanned queued,
        start (Scanner.ofString text) settings.trace = .ok scanned ∧
        start (Queue.ofList (contents.map .piece)) settings.trace = .ok queued ∧
        ∀ index,
          (scanned.request δ index).outcome = (queued.request δ index).outcome ∧
          (scanned.request δ index).events = (queued.request δ index).events) ∧
    (∀ error, Scanner.scan text = .error error →
      ∃ contents,
        (Scanner.ofString text).pieces = (contents, some error) ∧
        (Rule.Opens contents →
          (Tree.parse text : Except RuleError (Tree δ)) = .error (.lexical error)) ∧
        (¬ Rule.Opens contents →
          ∃ queued cause,
            start (Queue.ofList (contents.map .piece)) settings.trace = .ok queued ∧
            (queued.request δ 0).outcome = .error cause ∧
            (Tree.parse text : Except RuleError (Tree δ)) = .error cause)) := by
  constructor
  · intro contents hscan
    obtain ⟨scanned, queued, hscanned, hqueued, halike⟩ :=
      exists_alike_of_pieces (fun _ => true) (Scanner.pieces_of_scan_eq_ok hscan)
        settings.trace
    refine ⟨scanned, queued, hscanned, hqueued, fun index => ?_⟩
    have hrequest := halike.request (δ := δ) index
    refine ⟨hrequest.outcome, ?_⟩
    have hseen (events : List Event) : events.filter (fun _ => true) = events :=
      List.filter_eq_self.mpr fun _ _ => rfl
    rw [← hseen (scanned.request δ index).events, hrequest.events, hseen]
  · intro error hscan
    obtain ⟨contents, hpieces⟩ := Scanner.exists_pieces_of_scan_eq_error hscan
    refine ⟨contents, hpieces, fun hopens => ?_, fun hopens => ?_⟩
    · exact outcome_of_opens hpieces hopens false
    · obtain ⟨queued, hqueued⟩ := exists_start_ofPieces contents settings.trace
      obtain ⟨cause, hfails, hparse⟩ :=
        outcome_of_not_opens (δ := δ) hpieces hopens false settings.trace
      exact ⟨queued, cause, hqueued, (request_zero_outcome hqueued).trans hfails, hparse⟩

/-- A stray sign is the error behind an attribute, but not behind an operator that comes first. -/
theorem queued_reading_agrees_before_stray_sign :
    let contents : List Content := [.attr "x", .operator .assign, .nil]
    let stray : SourceError := .unexpectedCharacter '+' 2
    let misplaced : RuleError := .unexpected .attr "'='" 0
    Scanner.scan "x = nil" = .ok contents ∧
      (∃ scanned queued,
        start (Scanner.ofString "x = nil") true = .ok scanned ∧
        start (Queue.ofList (contents.map .piece)) true = .ok queued ∧
        ∀ index, (scanned.request Unit index).outcome = (queued.request Unit index).outcome) ∧
      Scanner.scan "x +" = .error stray ∧
      (Tree.parse "x +" : Except RuleError (Tree Unit)) = .error (.lexical stray) ∧
      Scanner.scan "= +" = .error stray ∧
      (Tree.parse "= +" : Except RuleError (Tree Unit)) = .error misplaced := by
  intro contents stray misplaced
  have hscan : Scanner.scan "x = nil" = .ok contents := by decide +kernel
  have hbehind : Scanner.scan "x +" = .error stray := by decide +kernel
  have hfirst : Scanner.scan "= +" = .error stray := by decide +kernel
  refine ⟨hscan, ?_, hbehind, ?_, hfirst, ?_⟩
  · obtain ⟨scanned, queued, hscanned, hqueued, hsame⟩ :=
      (queued_reading_agrees "x = nil" ⟨true, none⟩).1 contents hscan
    exact ⟨scanned, queued, hscanned, hqueued, fun index => (hsame index).1⟩
  · obtain ⟨others, hpieces, hlexical, -⟩ :=
      (queued_reading_agrees "x +" ⟨true, none⟩).2 stray hbehind
    have hattr : (Scanner.ofString "x +").pieces = ([.attr "x"], some stray) := by
      decide +kernel
    cases hpieces.symm.trans hattr
    refine hlexical ⟨by decide, fun index content hcontent => ?_⟩
    cases index with
    | zero =>
        cases hcontent
        rfl
    | succ index => cases hcontent
  · obtain ⟨others, hpieces, -, hqueued⟩ :=
      (queued_reading_agrees "= +" ⟨true, none⟩).2 stray hfirst
    have hoperator : (Scanner.ofString "= +").pieces = ([.operator .assign], some stray) := by
      decide +kernel
    cases hpieces.symm.trans hoperator
    have hopens : ¬ Rule.Opens [.operator .assign] := by
      intro h
      exact absurd (h.2 0 _ rfl) (by decide)
    obtain ⟨queued, cause, hstart, hcause, hparse⟩ := hqueued hopens
    cases hstart
    cases hcause
    exact hparse

end Reader

end LayoutRules
