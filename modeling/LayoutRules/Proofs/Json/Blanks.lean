import LayoutRules.Proofs.Json.Written

/-!
# Blanks outside the texts of a document

A quote opens a text inside a document, a backslash takes the character behind
it with it, and the next quote that is not taken closes the text. Where a
character stands is thus known from the characters in front of it, without the
grammar. The quotes that are found in this way are those of the grammar, so
deleting the blanks outside of texts turns the layout over several lines into
the one on a single line, whatever the texts are.
-/

namespace LayoutRules
namespace Json

theorem isBlank_of_isSpace
    {c : Char}
    (h : isSpace c = true) :
    Text.isBlank c = true := by
  simp only [isSpace, Bool.or_eq_true, beq_iff_eq] at h
  rcases h with ((rfl | rfl) | rfl) | rfl
  all_goals decide

/-- Where a character of a document stands. -/
inductive Place where
  /-- Outside of texts. -/
  | outside
  /-- In a text. -/
  | inside
  /-- In a text, taken by the backslash in front of it. -/
  | taken
deriving DecidableEq, Repr

namespace Place

/-- The place behind a character. -/
def next : Place → Char → Place
  | .outside, '"' => .inside
  | .outside, _ => .outside
  | .inside, '"' => .outside
  | .inside, '\\' => .taken
  | .inside, _ => .inside
  | .taken, _ => .inside

/-- The place behind some characters. -/
def behind (place : Place) (text : List Char) : Place :=
  text.foldl next place

theorem next_outside
    {c : Char}
    (h : c ≠ '"') :
    next .outside c = .outside := by
  rw [next]
  exact h

theorem next_inside
    {c : Char}
    (hquote : c ≠ '"')
    (hbackslash : c ≠ '\\') :
    next .inside c = .inside := by
  rw [next]
  · exact hquote
  · exact hbackslash

/-- Whether a character at a place is a blank outside of texts. -/
def isLoose (place : Place) (c : Char) : Bool :=
  place == .outside && Text.isBlank c

/-- A blank outside of texts is no quote, so the place behind it is the same. -/
theorem next_of_isLoose
    {place : Place} {c : Char}
    (h : place.isLoose c = true) :
    place.next c = place := by
  obtain ⟨hplace, hblank⟩ := (Bool.and_eq_true _ _).mp h
  rw [beq_iff_eq.mp hplace]
  refine next_outside ?_
  rintro rfl
  exact absurd hblank (by decide)

end Place

/-- The characters from a place on, without the blanks outside of texts. -/
def squeeze (place : Place) : List Char → List Char
  | [] => []
  | c :: rest =>
      if place.isLoose c then
        squeeze (place.next c) rest
      else
        c :: squeeze (place.next c) rest

theorem squeeze_append
    (place : Place)
    (front back : List Char) :
    squeeze place (front ++ back) =
      squeeze place front ++ squeeze (place.behind front) back := by
  induction front generalizing place with
  | nil => rfl
  | cons c rest ih =>
      simp only [List.cons_append, squeeze, ih, Place.behind, List.foldl_cons]
      split <;> rfl

/-- Squeezed characters have no blanks left outside of their texts. -/
theorem squeeze_squeeze
    (place : Place)
    (text : List Char) :
    squeeze place (squeeze place text) = squeeze place text := by
  induction text generalizing place with
  | nil => rfl
  | cons c rest ih =>
      rw [squeeze]
      split
      case isTrue hloose =>
        have hrest := ih (place.next c)
        rwa [Place.next_of_isLoose hloose] at hrest ⊢
      case isFalse hloose => rw [squeeze, if_neg hloose, ih]

/-- What is left of some characters from a place on, and the place behind them. -/
structure Squeezes
    (place : Place)
    (text left : List Char)
    (after : Place) :
    Prop where
  left : squeeze place text = left
  after : place.behind text = after

section Squeezes

variable {place middle after : Place} {text text' left left' : List Char} {c : Char}

theorem Squeezes.append
    (h : Squeezes place text left middle)
    (h' : Squeezes middle text' left' after) :
    Squeezes place (text ++ text') (left ++ left') after where
  left := by rw [squeeze_append, h.left, h.after, h'.left]
  after := by
    rw [← h'.after, ← h.after]
    exact List.foldl_append

theorem squeezes_nil :
    Squeezes place [] [] place :=
  ⟨rfl, rfl⟩

theorem squeezes_singleton
    (h : place.isLoose c = false) :
    Squeezes place [c] [c] (place.next c) where
  left := by simp [squeeze, h]
  after := rfl

/-- Characters that are no loose blanks and leave the place as it is are all left. -/
theorem squeezes_of_forall
    (h : ∀ c ∈ text, place.isLoose c = false ∧ place.next c = place) :
    Squeezes place text text place := by
  induction text with
  | nil => exact squeezes_nil
  | cons c rest ih =>
      obtain ⟨hloose, hnext⟩ := h c List.mem_cons_self
      have hfirst := squeezes_singleton hloose
      rw [hnext] at hfirst
      exact hfirst.append (ih fun d hd => h d (List.mem_cons_of_mem c hd))

/-- Of the blanks between the parts of a document nothing is left. -/
theorem squeezes_blanks
    (h : Text.Within isSpace text) :
    Squeezes .outside text [] .outside := by
  induction text with
  | nil => exact squeezes_nil
  | cons c rest ih =>
      obtain ⟨hspace, hrest⟩ := Text.within_cons.mp h
      have hloose : Place.isLoose .outside c = true := isBlank_of_isSpace hspace
      have hfirst : Squeezes .outside [c] [] .outside :=
        ⟨by simp [squeeze, hloose], Place.next_of_isLoose hloose⟩
      exact hfirst.append (ih hrest)

end Squeezes

section Texts

/-- A hexadecimal digit neither closes a text nor takes a character with it. -/
theorem next_inside_of_hexDigit?
    {c : Char} {digit : Nat}
    (h : hexDigit? c = some digit) :
    Place.next .inside c = .inside := by
  apply Place.next_inside
  · rintro rfl
    cases h
  · rintro rfl
    cases h

theorem squeezes_unit
    {digits : List Char} {unit : Nat}
    (h : unit? digits = some unit) :
    Squeezes .inside digits digits .inside := by
  unfold unit? at h
  split at h
  case h_1 a b c d =>
    simp only [Option.bind_eq_bind, Option.bind_eq_some_iff] at h
    obtain ⟨_, ha, _, hb, _, hc, _, hd, -⟩ := h
    apply squeezes_of_forall
    simp [Place.isLoose, next_inside_of_hexDigit? ha, next_inside_of_hexDigit? hb,
      next_inside_of_hexDigit? hc, next_inside_of_hexDigit? hd]
  case h_2 => cases h

/-- A backslash and the character that it takes are left in a text. -/
theorem squeezes_taken
    (letter : Char) :
    Squeezes .inside ['\\', letter] ['\\', letter] .inside :=
  (squeezes_singleton rfl).append (squeezes_singleton rfl)

/-- However a character of a text is written, all of it is in the text. -/
theorem Character.Spelling.squeezes
    {front : List Char} {c : Char}
    (h : Character.Spelling front c) :
    Squeezes .inside front front .inside := by
  cases h with
  | plain hcontrol hquote hbackslash =>
      have hplain : Squeezes .inside [c] [c] (Place.next .inside c) := squeezes_singleton rfl
      rwa [Place.next_inside hquote hbackslash] at hplain
  | short hshort => exact squeezes_taken _
  | unit hunit => exact (squeezes_taken 'u').append (squeezes_unit hunit)
  | pair hhigh hfirst hlow hsecond hcode =>
      exact (squeezes_taken 'u').append
        ((squeezes_unit hhigh).append ((squeezes_taken 'u').append (squeezes_unit hlow)))

theorem Characters.Spelling.squeezes
    {front text : List Char}
    (h : Characters.Spelling front text) :
    Squeezes .inside front front .inside := by
  induction h with
  | nil => exact squeezes_nil
  | cons hfirst hrest ih => exact hfirst.squeezes.append ih

/-- No number is written with a blank or a quote. -/
theorem isLoose_eq_false_of_isCharacter
    {c : Char}
    (h : Number.isCharacter c = true) :
    Place.isLoose .outside c = false ∧ Place.next .outside c = .outside := by
  refine ⟨?_, Place.next_outside ?_⟩
  · simp only [Number.isCharacter, Bool.or_eq_true, beq_iff_eq] at h
    rcases h with ((((hdigit | rfl) | rfl) | rfl) | rfl) | rfl
    · exact Text.isBlank_eq_false_of_isDecimalDigit (Text.isDecimalDigit_of_isDigit hdigit)
    all_goals decide
  · rintro rfl
    exact absurd h (by decide)

/-- The quotes of a text are those that open and close it, so nothing of it is deleted. -/
theorem Scalar.Spelling.squeezes
    {text : List Char} {value : Value}
    (h : Scalar.Spelling text value) :
    Squeezes .outside text text .outside := by
  cases h with
  | number hnumber hvalue =>
      exact squeezes_of_forall fun c hc => isLoose_eq_false_of_isCharacter (hnumber.within c hc)
  | text hcharacters =>
      have hopen : Squeezes .outside ['"'] ['"'] .inside := squeezes_singleton rfl
      have hclose : Squeezes .inside ['"'] ['"'] .outside := squeezes_singleton rfl
      exact hopen.append (hcharacters.squeezes.append hclose)

end Texts

section Layouts

/-- Only the blank in front of the value is deleted between a key and its value. -/
theorem squeezes_key
    (key : List Char) :
    Squeezes .outside (quote key ++ [':', ' ']) (quote key ++ [':']) .outside := by
  have hcolon : Squeezes .outside [':'] [':'] .outside := squeezes_singleton rfl
  exact (Scalar.spelling_quote key).squeezes.append
    (hcolon.append (squeezes_blanks within_space))

mutual

/-- Of the layout over several lines the one on a single line is left. -/
theorem Value.squeezes_pretty
    (depth : Nat)
    (value : Value)
    (h : value.isFinite = true) :
    Squeezes .outside (value.pretty depth) value.compact .outside := by
  cases value with
  | natural n => exact (Scalar.spelling_natural n).squeezes
  | number x => exact (Scalar.spelling_number h).squeezes
  | text text => exact (Scalar.spelling_quote text).squeezes
  | object members =>
      have hopen : Squeezes .outside ['\x7b'] ['\x7b'] .outside := squeezes_singleton rfl
      have hclose : Squeezes .outside ['\x7d'] ['\x7d'] .outside := squeezes_singleton rfl
      cases members with
      | none => exact hopen.append hclose
      | cons key value rest =>
          obtain ⟨hvalue, hrest⟩ := (Bool.and_eq_true _ _).mp h
          have hfirst :=
            (squeezes_key key).append (Value.squeezes_pretty (depth + 1) value hvalue)
          have hmembers := hfirst.append (Members.squeezes_pretty (depth + 1) rest hrest)
          have hobject :=
            hopen.append ((squeezes_blanks (within_margin (depth + 1))).append
              (hmembers.append ((squeezes_blanks (within_margin depth)).append hclose)))
          simpa [Value.pretty, Value.compact] using hobject

theorem Members.squeezes_pretty
    (depth : Nat)
    (members : Members)
    (h : members.isFinite = true) :
    Squeezes .outside (members.pretty depth) members.compact .outside := by
  cases members with
  | none => exact squeezes_nil
  | cons key value rest =>
      obtain ⟨hvalue, hrest⟩ := (Bool.and_eq_true _ _).mp h
      have hcomma : Squeezes .outside [','] [','] .outside := squeezes_singleton rfl
      have hfirst := (squeezes_key key).append (Value.squeezes_pretty depth value hvalue)
      have hmembers :=
        hcomma.append ((squeezes_blanks (within_margin depth)).append
          (hfirst.append (Members.squeezes_pretty depth rest hrest)))
      simpa [Members.pretty, Members.compact] using hmembers

end

/-- The layout over several lines is that on one line but for blanks outside of texts. -/
theorem squeeze_pretty
    {value : Value}
    (h : value.isFinite = true) :
    squeeze .outside (value.pretty 0) = value.compact :=
  (Value.squeezes_pretty 0 value h).left

end Layouts

end Json
end LayoutRules
