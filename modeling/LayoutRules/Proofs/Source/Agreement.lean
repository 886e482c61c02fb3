import LayoutRules.Proofs.Scanner.Lexeme
import LayoutRules.Proofs.Source.Answers

/-!
# Sources that answer alike

Two sources agree if no request tells them apart. A simulation between their
states shows that they do. A scanner whose text is all pieces agrees with the
queue of these pieces; if it fails somewhere, it begins with the pieces that
it delivers before.
-/

namespace LayoutRules

namespace Source

section Agreement

variable {σ τ : Type} [Source σ] [Source τ]

theorem after_next
    (source : σ)
    (count : Nat) :
    after (next source).2 count = after source (count + 1) := by
  induction count with
  | zero => rfl
  | succ count ih => rw [after_succ, ih, ← after_succ]

theorem answer_next
    (source : σ)
    (index : Nat) :
    answer (next source).2 index = answer source (index + 1) := by
  rw [answer, after_next, ← answer]

/-- Every request has the same answer from both. -/
def Agree (first : σ) (second : τ) : Prop :=
  ∀ index, answer first index = answer second index

theorem Agree.symm
    {first : σ} {second : τ}
    (h : Agree first second) :
    Agree second first := by
  intro index
  exact (h index).symm

theorem Agree.next
    {first : σ} {second : τ}
    (h : Agree first second) :
    Agree (next first).2 (next second).2 := by
  intro index
  rw [answer_next, answer_next]
  exact h (index + 1)

/-- Sources in related states agree if such states answer alike and stay related. -/
theorem Agree.of_simulation
    (related : σ → τ → Prop)
    (hnext :
      ∀ s t, related s t →
        (Source.next s).1 = (Source.next t).1 ∧
          related (Source.next s).2 (Source.next t).2)
    {first : σ} {second : τ}
    (h : related first second) :
    Agree first second := by
  intro index
  induction index generalizing first second with
  | zero => exact (hnext first second h).1
  | succ index ih =>
      rw [← answer_next, ← answer_next]
      exact ih (hnext first second h).2

/-- The first answers of a source are these pieces. -/
def Begins (source : σ) (contents : List Content) : Prop :=
  ∀ index content,
    contents[index]? = some content → answer source index = .ok (.piece content)

theorem Begins.nil
    (source : σ) :
    Begins source [] := by
  intro index content hcontent
  cases hcontent

theorem Begins.cons
    {source : σ} {content : Content} {contents : List Content}
    (hfirst : (Source.next source).1 = .ok (.piece content))
    (hrest : Begins (Source.next source).2 contents) :
    Begins source (content :: contents) := by
  intro index other hother
  cases index with
  | zero =>
      cases hother
      exact hfirst
  | succ index =>
      rw [← answer_next]
      exact hrest index other hother

end Agreement

end Source

namespace Queue

/-- A queue of pieces, whatever it has delivered before. -/
def ofPieces (contents : List Content) (position : Nat) : Queue :=
  ⟨contents.map .piece, position⟩

theorem begins_ofPieces
    (contents : List Content)
    (position : Nat) :
    Source.Begins (ofPieces contents position) contents := by
  induction contents generalizing position with
  | nil => exact .nil _
  | cons content contents ih => exact .cons rfl (ih (position + 1))

/-- A queue of pieces answers every request with a token. -/
theorem exists_answer_ofPieces
    (contents : List Content)
    (position index : Nat) :
    ∃ token, Source.answer (ofPieces contents position) index = .ok token := by
  induction index generalizing contents position with
  | zero =>
      cases contents with
      | nil => exact ⟨.finish, rfl⟩
      | cons content contents => exact ⟨.piece content, rfl⟩
  | succ index ih =>
      rw [← Source.answer_next]
      cases contents with
      | nil => exact ih [] position
      | cons content contents => exact ih contents (position + 1)

/-- Behind its pieces a queue has the finish. -/
theorem answer_ofPieces_length
    (contents : List Content)
    (position : Nat) :
    Source.answer (ofPieces contents position) contents.length = .ok .finish := by
  induction contents generalizing position with
  | nil => rfl
  | cons content contents ih =>
      rw [List.length_cons, ← Source.answer_next]
      exact ih (position + 1)

end Queue

namespace Scanner

theorem pieces_of_error
    {s after : Scanner} {error : SourceError}
    (h : s.next = (.error error, after)) :
    s.pieces = ([], some error) := by
  rw [pieces]
  split <;> simp_all

theorem pieces_of_finish
    {s after : Scanner}
    (h : s.next = (.ok .finish, after)) :
    s.pieces = ([], none) := by
  rw [pieces]
  split <;> simp_all

theorem pieces_of_piece
    {s after : Scanner} {content : Content}
    (h : s.next = (.ok (.piece content), after)) :
    s.pieces = (content :: after.pieces.1, after.pieces.2) := by
  rw [pieces]
  split <;> simp_all

/-- A text that can be scanned is all pieces. -/
theorem pieces_of_scan_eq_ok
    {text : String} {contents : List Content}
    (h : scan text = .ok contents) :
    (ofString text).pieces = (contents, none) := by
  unfold scan at h
  split at h
  case h_1 => cases h
  case h_2 others hpieces =>
    cases h
    exact hpieces

theorem exists_pieces_of_scan_eq_error
    {text : String} {error : SourceError}
    (h : scan text = .error error) :
    ∃ contents, (ofString text).pieces = (contents, some error) := by
  unfold scan at h
  split at h
  case h_1 contents cause hpieces =>
    cases h
    exact ⟨contents, hpieces⟩
  case h_2 => cases h

/-- The pieces of a text decide what scanning it comes to. -/
theorem scan_of_pieces
    {text : String} {contents : List Content} {error : Option SourceError}
    (h : (ofString text).pieces = (contents, error)) :
    scan text = error.elim (.ok contents) .error := by
  rw [scan, h]
  cases error <;> rfl

/-- A text that begins with some pieces and finishes behind them is all pieces. -/
theorem pieces_of_begins
    {s : Scanner} {contents : List Content}
    (hbegins : Source.Begins s contents)
    (hfinish : Source.answer s contents.length = .ok .finish) :
    s.pieces = (contents, none) := by
  induction contents generalizing s with
  | nil =>
      have hnext : s.next = (.ok .finish, s.next.2) := Prod.ext hfinish rfl
      exact pieces_of_finish hnext
  | cons content contents ih =>
      have hnext : s.next = (.ok (.piece content), s.next.2) :=
        Prod.ext (hbegins 0 content rfl) rfl
      have hrest : s.next.2.pieces = (contents, none) := by
        refine ih (fun index other hother => ?_) ?_
        · have hanswer := hbegins (index + 1) other hother
          rwa [← Source.answer_next] at hanswer
        · rwa [List.length_cons, ← Source.answer_next] at hfinish
      rw [pieces_of_piece hnext, hrest]

/-- A scanner delivers its pieces first. -/
theorem begins_pieces
    (s : Scanner) :
    Source.Begins s s.pieces.1 := by
  fun_induction pieces s with
  | case1 s error after hnext => exact .nil s
  | case2 s after hnext => exact .nil s
  | case3 s content after hnext contents error hpieces ih =>
      have hafter : (Source.next s).2 = after := congrArg Prod.snd hnext
      rw [hpieces, ← hafter] at ih
      exact .cons (congrArg Prod.fst hnext) ih

/-- Behind its pieces a scanner fails with the error that its text has. -/
theorem answer_behind_pieces
    {s : Scanner} {error : SourceError}
    (h : s.pieces.2 = some error) :
    Source.answer s s.pieces.1.length = .error error := by
  fun_induction pieces s with
  | case1 s cause after hnext =>
      cases h
      exact congrArg Prod.fst hnext
  | case2 s after hnext => cases h
  | case3 s content after hnext contents cause hpieces ih =>
      have hafter : (Source.next s).2 = after := congrArg Prod.snd hnext
      rw [hpieces] at ih
      rw [List.length_cons, ← Source.answer_next, hafter]
      exact ih h

/-- A text with an error delivers the pieces in front of it, and then fails. -/
theorem answers_of_pieces_error
    {s : Scanner} {contents : List Content} {error : SourceError}
    (h : s.pieces = (contents, some error)) :
    Source.Begins s contents ∧ Source.answer s contents.length = .error error := by
  have hbegins := begins_pieces s
  have herror := answer_behind_pieces (congrArg Prod.snd h)
  rw [h] at hbegins herror
  exact ⟨hbegins, herror⟩

/-- Behind the finish there is nothing but the finish. -/
theorem next_of_next_finish
    {s after : Scanner}
    (h : s.next = (.ok .finish, after)) :
    after.next = (.ok .finish, after) := by
  have htakes := takes_next s
  rw [h] at htakes
  -- The text ended in blanks; the scanner has moved behind them and has nothing left.
  cases htakes with
  | finish hblanks hrest => exact next_of_finish Text.within_nil rfl

/-- The queue has the pieces of a scanner that does not fail. -/
def Feeds (s : Scanner) (queue : Queue) : Prop :=
  ∃ contents position,
    s.pieces = (contents, none) ∧ queue = .ofPieces contents position

/-- A scanner and the queue of its pieces answer alike, and the queue then has the others. -/
theorem Feeds.next
    {s : Scanner} {queue : Queue}
    (h : Feeds s queue) :
    (Source.next s).1 = (Source.next queue).1 ∧
      Feeds (Source.next s).2 (Source.next queue).2 := by
  obtain ⟨contents, position, hpieces, rfl⟩ := h
  show s.next.1 = _ ∧ Feeds s.next.2 _
  rcases hnext : s.next with ⟨error | (content | _), after⟩
  · rw [pieces_of_error hnext] at hpieces
    cases hpieces
  · rw [pieces_of_piece hnext] at hpieces
    obtain ⟨rfl, hrest⟩ := Prod.mk.inj hpieces
    exact ⟨rfl, after.pieces.1, position + 1, Prod.ext rfl hrest, rfl⟩
  · rw [pieces_of_finish hnext] at hpieces
    cases hpieces
    exact ⟨rfl, [], position, pieces_of_finish (next_of_next_finish hnext), rfl⟩

/-- A text that is all pieces answers as the queue of its pieces does. -/
theorem agree_ofPieces
    {s : Scanner} {contents : List Content}
    (h : s.pieces = (contents, none))
    (position : Nat) :
    Source.Agree s (Queue.ofPieces contents position) :=
  .of_simulation Feeds (fun _ _ => Feeds.next) ⟨contents, position, h, rfl⟩

end Scanner
end LayoutRules
