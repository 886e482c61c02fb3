import LayoutRules.Text.Blank
import LayoutRules.Text.DecimalDigit
import Mathlib.Data.List.DropRight
import Mathlib.Data.List.TakeWhile

/-!
# Runs of a class of characters

A scanner splits a text where a run of a class of characters ends. The split
is determined by three facts: the parts make up the text, the front part is in
the class, and the back part does not go on with it.

Two classes given by ranges are disjoint when their ranges are, which is a
finite check over the two tables.
-/

namespace LayoutRules
namespace Text

/-- A text all of whose characters are in a class. -/
def Within
    (p : Char → Bool)
    (text : List Char) :
    Prop :=
  ∀ c ∈ text, p c = true

instance (p : Char → Bool) (text : List Char) : Decidable (Within p text) :=
  List.decidableBAll (fun c => p c = true) text

/-- A text whose first character, if it has one, is outside a class. -/
def Stops
    (p : Char → Bool)
    (text : List Char) :
    Prop :=
  ∀ c ∈ text.head?, p c = false

section Runs

variable {p : Char → Bool} {front back text : List Char} {c : Char}

@[simp] theorem within_nil :
    Within p [] := by
  simp [Within]

@[simp] theorem within_cons :
    Within p (c :: text) ↔ p c = true ∧ Within p text := by
  simp [Within]

@[simp] theorem within_append :
    Within p (front ++ back) ↔ Within p front ∧ Within p back := by
  simp only [Within, List.mem_append]
  constructor
  · intro h
    exact ⟨fun c hc => h c (Or.inl hc), fun c hc => h c (Or.inr hc)⟩
  · rintro ⟨hfront, hback⟩ c (hc | hc)
    · exact hfront c hc
    · exact hback c hc

@[simp] theorem stops_nil :
    Stops p [] := by
  simp [Stops]

@[simp] theorem stops_cons :
    Stops p (c :: text) ↔ p c = false := by
  simp [Stops]

theorem within_takeWhile
    (p : Char → Bool)
    (text : List Char) :
    Within p (text.takeWhile p) :=
  fun _ hc => List.mem_takeWhile_imp hc

theorem stops_dropWhile
    (p : Char → Bool)
    (text : List Char) :
    Stops p (text.dropWhile p) := by
  intro c hc
  have hhead := List.head?_dropWhile_not p text
  rw [Option.mem_def.mp hc] at hhead
  exact hhead

theorem takeWhile_append
    (hfront : Within p front)
    (hback : Stops p back) :
    (front ++ back).takeWhile p = front := by
  rw [List.takeWhile_append_of_pos hfront]
  cases back with
  | nil => simp
  | cons c rest => simp [stops_cons.mp hback]

theorem dropWhile_append
    (hfront : Within p front)
    (hback : Stops p back) :
    (front ++ back).dropWhile p = back := by
  rw [List.dropWhile_append_of_pos hfront]
  cases back with
  | nil => rfl
  | cons c rest => simp [stops_cons.mp hback]

/-- A text is split at the end of a run in one way only. -/
theorem split_unique
    {front' back' : List Char}
    (hfront : Within p front)
    (hfront' : Within p front')
    (hback : Stops p back)
    (hback' : Stops p back')
    (heq : front ++ back = front' ++ back') :
    front = front' ∧ back = back' := by
  have hsame : front = front' := by
    rw [← takeWhile_append hfront hback, heq, takeWhile_append hfront' hback']
  subst hsame
  exact ⟨rfl, List.append_cancel_left heq⟩

/-- A text inside one class stops the runs of a class that is disjoint from it. -/
theorem Within.stops_append
    {q : Char → Bool}
    (hfront : Within q front)
    (hback : Stops p back)
    (hdisjoint : ∀ c, q c = true → p c = false) :
    Stops p (front ++ back) := by
  cases front with
  | nil => exact hback
  | cons c rest => exact stops_cons.mpr (hdisjoint c (within_cons.mp hfront).1)

/-- A text ends outside a class when its last part is outside the class. -/
theorem stops_reverse_append
    (front : List Char)
    (hne : back ≠ [])
    (hback : ∀ c ∈ back, p c = false) :
    Stops p (front ++ back).reverse := by
  obtain ⟨c, tail, hreverse⟩ := List.exists_cons_of_ne_nil (List.reverse_ne_nil_iff.mpr hne)
  have hc : c ∈ back := by
    rw [← List.mem_reverse, hreverse]
    exact List.mem_cons_self
  rw [List.reverse_append, hreverse]
  exact stops_cons.mpr (hback c hc)

/-- A text that neither begins nor ends with a blank is its own trimmed text. -/
theorem trim_eq_self
    (hfront : Stops isBlank text)
    (hback : Stops isBlank text.reverse) :
    trim text = text := by
  have hdrop {text : List Char} (h : Stops isBlank text) : text.dropWhile isBlank = text :=
    dropWhile_append within_nil h
  rw [trim, hdrop hfront, hdrop hback, List.reverse_reverse]

theorem Stops.append
    (hfront : Stops p front)
    (hback : Stops p back) :
    Stops p (front ++ back) := by
  cases front with
  | nil => exact hback
  | cons c rest => exact stops_cons.mpr (stops_cons.mp hfront)

theorem Within.reverse
    (h : Within p text) :
    Within p text.reverse :=
  fun c hc => h c (List.mem_reverse.mp hc)

theorem rdropWhile_append
    (hback : Within p back)
    (hfront : Stops p front.reverse) :
    (front ++ back).rdropWhile p = front := by
  rw [List.rdropWhile, List.reverse_append, dropWhile_append hback.reverse hfront,
    List.reverse_reverse]

end Runs

section Trim

variable {front back : List Char}

/-- A text is its trimmed text between the blanks in front of it and others. -/
theorem exists_trim
    (text : List Char) :
    ∃ back,
      Within isBlank back ∧ text = text.takeWhile isBlank ++ (trim text ++ back) := by
  have hbehind :=
    (List.takeWhile_append_dropWhile (p := isBlank)
      (l := (text.dropWhile isBlank).reverse)).symm
  refine ⟨((text.dropWhile isBlank).reverse.takeWhile isBlank).reverse,
    (within_takeWhile isBlank _).reverse, ?_⟩
  rw [trim, ← List.reverse_append, ← hbehind, List.reverse_reverse,
    List.takeWhile_append_dropWhile]

/-- Blanks in front of a text are trimmed with its own. -/
theorem trim_blanks_append
    (text : List Char)
    (hfront : Within isBlank front) :
    trim (front ++ text) = trim text := by
  rw [trim, List.dropWhile_append_of_pos hfront, ← trim]

/-- Blanks behind a text are trimmed with its own. -/
theorem trim_append_blanks
    (text : List Char)
    (hback : Within isBlank back) :
    trim (text ++ back) = trim text := by
  have hnone : back.dropWhile isBlank = [] := List.dropWhile_eq_nil_iff.mpr hback
  cases hdrop : text.dropWhile isBlank with
  | nil => simp [trim, List.dropWhile_append, hdrop, hnone]
  | cons c rest =>
      rw [trim, trim, List.dropWhile_append, hdrop, List.isEmpty_cons, if_neg Bool.false_ne_true,
        List.reverse_append, List.dropWhile_append_of_pos hback.reverse]

end Trim

namespace Ranges

/-- No range of one table meets a range of the other. -/
def apart (first second : Ranges) : Bool :=
  first.bounds.all fun a =>
    second.bounds.all fun b =>
      decide (a.2 < b.1) || decide (b.2 < a.1)

theorem contains_eq_false_of_apart
    {first second : Ranges} {c : Char}
    (h : first.apart second = true)
    (hc : first.contains c = true) :
    second.contains c = false := by
  obtain ⟨a, ha, halower, haupper⟩ := (contains_iff first c).mp hc
  by_contra hcontains
  rw [Bool.not_eq_false, contains_iff] at hcontains
  obtain ⟨b, hb, hblower, hbupper⟩ := hcontains
  have hab := List.all_eq_true.mp (List.all_eq_true.mp h a ha) b hb
  simp only [Bool.or_eq_true, decide_eq_true_eq] at hab
  omega

end Ranges

/-- Decimal digits are not blank. -/
theorem isBlank_eq_false_of_isDecimalDigit
    {c : Char}
    (h : isDecimalDigit c = true) :
    isBlank c = false :=
  Ranges.contains_eq_false_of_apart (by decide +kernel) h

end Text
end LayoutRules
