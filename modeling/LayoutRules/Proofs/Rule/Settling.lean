import LayoutRules.Proofs.Source.Dwindling

/-!
# Requests come to rest

A failed request may have moved its reader, so the next one may do better: it
may even read a rule. But every request either leaves the reader as it is or
has less to read before it. A reader of a source of some size has therefore
come to rest after as many requests, and all further ones fail alike. Behind a
rule there is nothing to read, so at most one request reads one.
-/

namespace LayoutRules

namespace Reader

variable {σ δ : Type}

/-- What is before a reader: its source, and its current token unless that is the finish. -/
def unread (size : σ → Nat) (reader : Reader σ) : Nat :=
  size reader.source + if reader.current = .finish then 0 else 1

section Measure

variable {size : σ → Nat} {reader after : Reader σ}

theorem unread_of_finish
    (h : reader.current = .finish) :
    reader.unread size = size reader.source := by
  rw [unread, if_pos h, Nat.add_zero]

theorem unread_of_piece
    {content : Content}
    (h : reader.current = .piece content) :
    reader.unread size = size reader.source + 1 := by
  rw [unread, h, if_neg Token.noConfusion]

variable [Source σ]

/-- A piece that is given up is behind the reader. -/
theorem Shifts.unread_lt
    {content : Content}
    (hshifts : reader.Shifts after)
    (hsize : Source.Dwindles size)
    (hpiece : reader.current = .piece content) :
    after.unread size < reader.unread size := by
  obtain ⟨source, token, hnext, rfl⟩ := hshifts
  have hle := hsize.size_le reader.source
  rw [hnext] at hle
  rw [unread_of_piece hpiece]
  cases token with
  | finish =>
      rw [unread_of_finish rfl]
      exact Nat.lt_succ_of_le hle
  | piece content =>
      -- The next piece takes the place of the current one, and the source is smaller by it.
      have hlt := hsize.piece reader.source content (congrArg Prod.fst hnext)
      rw [hnext] at hlt
      rw [unread_of_piece rfl]
      exact Nat.succ_lt_succ hlt

/-- A failing source has less before it, or it will fail in the same way again. -/
theorem Loses.eq_or_unread_lt
    {error : SourceError}
    (hloses : reader.Loses error after)
    (hsize : Source.Dwindles size) :
    after = reader ∨ after.unread size < reader.unread size := by
  obtain ⟨source, hnext, rfl⟩ := hloses
  have hmoves := hsize.moves reader.source
  rw [hnext] at hmoves
  rcases hmoves with hstays | hlt
  · obtain rfl : source = reader.source := hstays
    exact Or.inl rfl
  · exact Or.inr (Nat.add_lt_add_right hlt _)

theorem Loses.unread_le
    {error : SourceError}
    (hloses : reader.Loses error after)
    (hsize : Source.Dwindles size) :
    after.unread size ≤ reader.unread size := by
  rcases hloses.eq_or_unread_lt hsize with heq | hlt
  · rw [heq]
  · exact hlt.le

/-- A course fails and leaves the reader as it is, or there is less before the reader. -/
theorem Course.rests_or_unread_lt
    {step : Step σ (Tree δ)}
    (h : reader.Course step)
    (hsize : Source.Dwindles size) :
    (step.reader = reader ∧ ∃ error, step.outcome = .error error) ∨
      step.reader.unread size < reader.unread size := by
  cases h with
  | empty hfinish => exact Or.inl ⟨rfl, _, rfl⟩
  | noAttribute hpiece hattr => exact Or.inl ⟨rfl, _, rfl⟩
  | attributeLost hattr hloses =>
      rcases hloses.eq_or_unread_lt hsize with heq | hlt
      · exact Or.inl ⟨heq, _, rfl⟩
      · exact Or.inr hlt
  | noOperator hattr hfirst hoperator => exact Or.inr (hfirst.unread_lt hsize hattr)
  | operatorLost hattr hfirst hoperator hloses =>
      have hone := hfirst.unread_lt hsize hattr
      exact Or.inr ((hloses.unread_le hsize).trans_lt hone)
  | noValue hattr hfirst hoperator hsecond hvalue =>
      have hone := hfirst.unread_lt hsize hattr
      exact Or.inr ((hsecond.unread_lt hsize hoperator).trans hone)
  | valueLost hattr hfirst hoperator hsecond hvalue hisValue hloses =>
      have htwo := (hsecond.unread_lt hsize hoperator).trans (hfirst.unread_lt hsize hattr)
      exact Or.inr ((hloses.unread_le hsize).trans_lt htwo)
  | trailing hattr hfirst hoperator hsecond hvalue hisValue hthird htrailing =>
      have htwo := (hsecond.unread_lt hsize hoperator).trans (hfirst.unread_lt hsize hattr)
      exact Or.inr ((hthird.unread_lt hsize hvalue).trans htwo)
  | rule hattr hfirst hoperator hsecond hvalue hisValue hthird hfinish =>
      have htwo := (hsecond.unread_lt hsize hoperator).trans (hfirst.unread_lt hsize hattr)
      exact Or.inr ((hthird.unread_lt hsize hvalue).trans htwo)

/-- A reader that has just started has no more before it than its source had. -/
theorem unread_le_of_start
    {source : σ} {trace : Bool}
    (hsize : Source.Dwindles size)
    (h : start source trace = .ok reader) :
    reader.unread size ≤ size source := by
  have hle := hsize.size_le source
  unfold start at h
  rcases hnext : Source.next source with ⟨error | first, rest⟩
  · rw [hnext] at h
    cases h
  · rw [hnext] at h hle
    cases h
    cases first with
    | finish =>
        rw [unread_of_finish rfl]
        exact hle
    | piece content =>
        have hlt := hsize.piece source content (congrArg Prod.fst hnext)
        rw [hnext] at hlt
        rw [unread_of_piece rfl]
        exact hlt

end Measure

section Rest

variable [Source σ] {size : σ → Nat} (reader : Reader σ)

theorem request_rests_or_unread_lt
    (hsize : Source.Dwindles size)
    (index : Nat) :
    (reader.afterRequests δ (index + 1) = reader.afterRequests δ index ∧
      ∃ error, (reader.request δ index).outcome = .error error) ∨
    (reader.afterRequests δ (index + 1)).unread size <
      (reader.afterRequests δ index).unread size := by
  obtain ⟨step, hcourse, hread⟩ :=
    exists_course_of_read (δ := δ) (reader.afterRequests δ index)
  have hrests := hcourse.rests_or_unread_lt hsize
  rw [afterRequests_succ, request, hread]
  exact hrests

/-- Up to any request a reader has come to rest, or has less before it by each of them. -/
theorem rests_or_unread_add_le
    (hsize : Source.Dwindles size)
    (count : Nat) :
    (∃ first < count,
      reader.afterRequests δ (first + 1) = reader.afterRequests δ first) ∨
    (reader.afterRequests δ count).unread size + count ≤ reader.unread size := by
  induction count with
  | zero => exact Or.inr le_rfl
  | succ count ih =>
      rcases ih with ⟨first, hfirst, hrest⟩ | hle
      · exact Or.inl ⟨first, Nat.lt_succ_of_lt hfirst, hrest⟩
      · rcases request_rests_or_unread_lt (δ := δ) reader hsize count with ⟨hrest, -⟩ | hlt
        · exact Or.inl ⟨count, Nat.lt_succ_self count, hrest⟩
        · refine Or.inr ?_
          omega

variable {reader}

/-- A reader that has been left as it is once is left so by every request. -/
theorem afterRequests_of_rest
    {first index : Nat}
    (hrest : reader.afterRequests δ (first + 1) = reader.afterRequests δ first)
    (hindex : first ≤ index) :
    reader.afterRequests δ index = reader.afterRequests δ first := by
  induction index, hindex using Nat.le_induction with
  | base => rfl
  | succ index hle ih =>
      calc
        reader.afterRequests δ (index + 1)
          = ((reader.afterRequests δ index).read : Step σ (Tree δ)).reader := rfl
        _ = reader.afterRequests δ (first + 1) := by
          rw [ih]
          rfl
        _ = reader.afterRequests δ first := hrest

/-- As many requests as there is before a reader bring it to rest. -/
theorem afterRequests_of_unread_le
    {count index : Nat}
    (hsize : Source.Dwindles size)
    (hcount : reader.unread size ≤ count)
    (hindex : count ≤ index) :
    reader.afterRequests δ index = reader.afterRequests δ count := by
  rcases rests_or_unread_add_le (δ := δ) reader hsize (count + 1) with
    ⟨first, hfirst, hrest⟩ | hle
  · have hle : first ≤ count := Nat.le_of_lt_succ hfirst
    rw [afterRequests_of_rest hrest (hle.trans hindex), afterRequests_of_rest hrest hle]
  · omega

end Rest

variable [Source σ]

section Rules

variable {source : σ}

/-- With nothing to read a request leaves the reader as it is. -/
theorem read_of_finish
    {reader : Reader σ}
    (h : reader.current = .finish) :
    (reader.read : Step σ (Tree δ)) = ⟨.error .empty, reader, [.ruleRejected .empty]⟩ := by
  have hrule : (Reading.rule : Reading σ (Tree δ)) reader = ⟨.error .empty, reader, []⟩ := by
    refine (Reading.current_bind _ reader).trans ?_
    simp only [h, if_true]
    rfl
  rw [read, Reading.shown_eq, hrule]
  rfl

/-- A reader at the finish stays there. -/
theorem request_of_finish
    {reader : Reader σ} {first index : Nat}
    (hfinish : (reader.afterRequests δ first).current = .finish)
    (hindex : first ≤ index) :
    (reader.request δ index).outcome = .error .empty := by
  have hrest : reader.afterRequests δ (first + 1) = reader.afterRequests δ first := by
    rw [afterRequests_succ, request, read_of_finish hfinish]
  rw [request, afterRequests_of_rest hrest hindex, read_of_finish hfinish]

/-- The source delivers the three parts of the tree last, and then nothing but the finish. -/
def EndsIn (source : σ) (tree : Tree δ) : Prop :=
  ∃ count front name op value,
    Source.delivered source count =
      front ++ [.piece (.attr name), .piece (.operator op), .piece value] ∧
    .finish ∉ front ∧
    (∀ index, count ≤ index → Source.answer source index = .ok .finish) ∧
    tree = Tree.ofParts name op value

/-- The tokens behind the one that a reader has are those that it still has to give up. -/
theorem Remembers.answer_of_shifts
    {asked : Nat} {given : List Token} {reader after : Reader σ}
    (h : Remembers source asked given reader)
    (hshifts : reader.Shifts after) :
    Source.answer source asked = .ok after.current := by
  obtain ⟨rest, token, hnext, rfl⟩ := hshifts
  rw [h.rest, Source.next_after] at hnext
  exact (Prod.mk.inj hnext).1

/-- A rule that is read is made of the last tokens of its source. -/
theorem Course.endsIn
    {size : σ → Nat} {asked : Nat} {given : List Token} {reader : Reader σ}
    {step : Step σ (Tree δ)} {tree : Tree δ}
    (hsize : Source.Dwindles size)
    (hremembers : Remembers source asked given reader)
    (h : reader.Course step)
    (htree : step.outcome = .ok tree) :
    EndsIn source tree ∧ step.reader.current = .finish := by
  cases h with
  | @rule name op value first second third hattr hfirst hoperator hsecond hvalue
      hisValue hthird hfinish =>
      cases htree
      have hlast := (hremembers.shifts hfirst).shifts hsecond
      refine ⟨⟨asked + 1 + 1, given, name, op, value, ?_, ?_, ?_, rfl⟩, hfinish⟩
      · rw [hlast.tokens, hattr, hoperator, hvalue]
        simp
      · -- Behind a finish the source would not have delivered the operator.
        intro hmem
        have hbehind : Source.answer source asked = .ok .finish := by
          refine hsize.answer_of_mem_delivered ?_
          rw [hremembers.tokens]
          exact List.mem_append_left _ hmem
        rw [hremembers.answer_of_shifts hfirst, hoperator] at hbehind
        cases hbehind
      · intro index hindex
        have hend := hlast.answer_of_shifts hthird
        rw [hfinish] at hend
        exact hsize.answer_eq_finish hend hindex
  | _ => cases htree

/-- A request that reads a rule reads the end of its source and leaves the reader at the finish. -/
theorem endsIn_of_request
    {size : σ → Nat} {trace : Bool} {reader : Reader σ} {index : Nat} {tree : Tree δ}
    (hsize : Source.Dwindles size)
    (hstart : start source trace = .ok reader)
    (htree : (reader.request δ index).outcome = .ok tree) :
    EndsIn source tree ∧ (reader.afterRequests δ (index + 1)).current = .finish := by
  obtain ⟨-, hfirst⟩ := remembers_of_start hstart
  obtain ⟨asked, given, htrail, -⟩ := exists_trail (δ := δ) reader index
  obtain ⟨step, hcourse, hread⟩ :=
    exists_course_of_read (δ := δ) (reader.afterRequests δ index)
  rw [request, hread] at htree
  have hends := hcourse.endsIn hsize (htrail.remembers hfirst) htree
  rw [afterRequests_succ, request, hread]
  exact hends

end Rules

/--
What becomes of the requests to a reader of a source of some size: at most one
of them reads a rule, which the source ends in; the requests behind it find
nothing to read; and all requests from the one on whose number is the size
fail with one and the same error and leave the reader as it is.
-/
structure Settles
    (δ : Type)
    (source : σ)
    (size : Nat)
    (reader : Reader σ) :
    Prop where
  atMostOne : ∀ (first second : Nat) (tree other : Tree δ),
    (reader.request δ first).outcome = .ok tree →
    (reader.request δ second).outcome = .ok other → first = second
  endsIn : ∀ (index : Nat) (tree : Tree δ),
    (reader.request δ index).outcome = .ok tree → EndsIn source tree
  emptyBehind : ∀ (first index : Nat) (tree : Tree δ),
    (reader.request δ first).outcome = .ok tree → first < index →
    (reader.request δ index).outcome = .error .empty
  rests : ∃ error, ∀ index, size ≤ index →
    (reader.request δ index).outcome = .error error ∧
    reader.afterRequests δ (index + 1) = reader.afterRequests δ size

theorem settles_of_start
    {source : σ} {size : σ → Nat} {trace : Bool} {reader : Reader σ}
    (hsize : Source.Dwindles size)
    (hstart : start source trace = .ok reader) :
    Settles δ source (size source) reader := by
  have hempty {first index : Nat} {tree : Tree δ}
      (htree : (reader.request δ first).outcome = .ok tree)
      (hindex : first < index) :
      (reader.request δ index).outcome = .error .empty :=
    request_of_finish (endsIn_of_request hsize hstart htree).2 hindex
  have hrest {index : Nat} (hindex : size source ≤ index) :
      reader.afterRequests δ index = reader.afterRequests δ (size source) :=
    afterRequests_of_unread_le hsize (unread_le_of_start hsize hstart) hindex
  refine ⟨?_, ?_, ?_, ?_⟩
  · intro first second tree other htree hother
    rcases Nat.lt_trichotomy first second with hlt | heq | hlt
    · rw [hempty htree hlt] at hother
      cases hother
    · exact heq
    · rw [hempty hother hlt] at htree
      cases htree
  · intro index tree htree
    exact (endsIn_of_request hsize hstart htree).1
  · intro first index tree htree hindex
    exact hempty htree hindex
  · -- The first request at rest fails, and every later one is the same request again.
    have hfails : ∃ error, (reader.request δ (size source)).outcome = .error error := by
      rcases request_rests_or_unread_lt (δ := δ) reader hsize (size source) with
        ⟨-, herror⟩ | hlt
      · exact herror
      · rw [hrest (Nat.le_succ _)] at hlt
        exact absurd hlt (Nat.lt_irrefl _)
    obtain ⟨error, herror⟩ := hfails
    refine ⟨error, fun index hindex => ⟨?_, hrest (Nat.le_succ_of_le hindex)⟩⟩
    rw [request, hrest hindex]
    exact herror

/--
Repeated requests come to rest. Of all requests to a reader of a text, or of a
queue with finishes anywhere in it, at most one reads a rule, and the rule is
made of the last three tokens that its source delivers before the finish; the
requests behind it find nothing to read. As many requests as the text has
characters, or the queue has tokens, bring the reader to rest: all further ones
fail with one and the same error and do not change the reader.
-/
theorem requests_come_to_rest :
    (∀ (text : String) (trace : Bool) (reader : Reader Scanner),
      start (Scanner.ofString text) trace = .ok reader →
      Settles δ (Scanner.ofString text) text.length reader) ∧
    (∀ (tokens : List Token) (trace : Bool) (reader : Reader Queue),
      start (Queue.ofList tokens) trace = .ok reader →
      Settles δ (Queue.ofList tokens) tokens.length reader) := by
  refine ⟨?_, ?_⟩
  · intro text trace reader hstart
    rw [← String.length_toList]
    exact settles_of_start Scanner.dwindles hstart
  · intro tokens trace reader hstart
    exact settles_of_start Queue.dwindles hstart

/--
A misplaced finish fails the first request, and the rule behind it is read by
the second one; its tokens are the last of the queue.
-/
theorem requests_come_to_rest_behind_early_finish :
    let tokens : List Token :=
      [.piece (.attr "x"), .finish, .piece .nil, .piece (.operator .assign), .piece .nil]
    let reader : Reader Queue := ⟨⟨tokens.tail, 1⟩, .piece (.attr "x"), 0, false⟩
    let tree : Tree Unit := Tree.ofParts "x" .assign .nil
    start (Queue.ofList tokens) false = .ok reader ∧
      (reader.request Unit 0).outcome = .error (.trailing "nil" 1) ∧
      (reader.request Unit 1).outcome = .ok tree ∧
      EndsIn (Queue.ofList tokens) tree ∧
      Settles Unit (Queue.ofList tokens) 5 reader := by
  intro tokens reader tree
  have hstart : start (Queue.ofList tokens) false = .ok reader := rfl
  have htree : (reader.request Unit 1).outcome = .ok tree := rfl
  have hsettles := (requests_come_to_rest (δ := Unit)).2 tokens false reader hstart
  exact ⟨hstart, rfl, htree, hsettles.endsIn 1 tree htree, hsettles⟩

end Reader
end LayoutRules
