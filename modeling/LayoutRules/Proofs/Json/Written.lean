import LayoutRules.Proofs.Json.Number
import LayoutRules.Proofs.Json.Unambiguous

/-!
# What is written is a document

Both layouts of a value are documents of the value, as long as its numbers are
finite. As a text is a document of one value only, the written text is a
document of this value and of no other, and different values have different
texts in either layout.
-/

namespace LayoutRules
namespace Json

mutual

/-- All numbers of a value are finite. -/
def Value.isFinite : Value → Bool
  | .natural _ => true
  | .number x => x.isFinite
  | .text _ => true
  | .object members => members.isFinite

/-- All numbers of some members are finite. -/
def Members.isFinite : Members → Bool
  | .none => true
  | .cons _ value rest => value.isFinite && rest.isFinite

end

section Texts

/-- Four hexadecimal digits are enough for a control character. -/
theorem unit?_controlCharacter
    {c : Char}
    (h : c < ' ') :
    unit? (List.replicate (4 - (Nat.toDigits 16 c.toNat).length) '0' ++
      Nat.toDigits 16 c.toNat) = some c.toNat := by
  have hall :
      ∀ n < 32, unit? (List.replicate (4 - (Nat.toDigits 16 n).length) '0' ++
        Nat.toDigits 16 n) = some n := by
    decide
  exact hall c.toNat h

theorem spelling_textCharacter
    (c : Char) :
    Character.Spelling (textCharacter c) c := by
  have hshort {letter d : Char} (heq : c = d) (h : shorthand? letter = some d) :
      Character.Spelling ['\\', letter] c :=
    heq ▸ .short h
  unfold textCharacter
  split
  · next heq => exact hshort heq rfl
  next hquote =>
  split
  · next heq => exact hshort heq rfl
  next hbackslash =>
  split
  · next heq => exact hshort heq rfl
  split
  · next heq => exact hshort heq rfl
  split
  · next heq => exact hshort heq rfl
  split
  · next heq => exact hshort heq rfl
  split
  · next heq => exact hshort heq rfl
  split
  · next hcontrol => exact .unit (unit?_controlCharacter hcontrol)
  · next hcontrol => exact .plain (Char.not_lt.mp hcontrol) hquote hbackslash

theorem spelling_flatMap
    (text : List Char) :
    Characters.Spelling (text.flatMap textCharacter) text := by
  induction text with
  | nil => exact .nil
  | cons c rest ih => exact .cons (spelling_textCharacter c) ih

theorem Scalar.spelling_quote
    (text : List Char) :
    Scalar.Spelling (quote text) (.text text) :=
  .text (spelling_flatMap text)

/-- A quoted key may have blanks in front and, behind its colon, in front of the value. -/
theorem Key.spelling_quote
    {before behind : List Char}
    (key : List Char)
    (hbefore : Text.Within isSpace before)
    (hbehind : Text.Within isSpace behind) :
    Key.Spelling (before ++ (quote key ++ ':' :: behind)) key := by
  have hkey := Key.Spelling.key hbefore (spelling_flatMap key) Text.within_nil hbehind
  simpa [quote] using hkey

end Texts

mutual

/-- The text on one line is a text of the value. -/
theorem Value.spelling_compact
    (value : Value)
    (h : value.isFinite = true) :
    Value.Spelling value.compact value := by
  cases value with
  | natural n => exact .scalar (Scalar.spelling_natural n)
  | number x => exact .scalar (Scalar.spelling_number h)
  | text text => exact .scalar (Scalar.spelling_quote text)
  | object members =>
      cases members with
      | none => exact .empty Text.within_nil
      | cons key value rest =>
          obtain ⟨hvalue, hrest⟩ := (Bool.and_eq_true _ _).mp h
          have hobject :=
            Value.Spelling.object (Key.spelling_quote key Text.within_nil Text.within_nil)
              (Value.spelling_compact value hvalue) (Members.spelling_compact rest hrest)
              Text.within_nil
          simpa [Value.compact] using hobject

theorem Members.spelling_compact
    (members : Members)
    (h : members.isFinite = true) :
    Members.Spelling members.compact members := by
  cases members with
  | none => exact .none
  | cons key value rest =>
      obtain ⟨hvalue, hrest⟩ := (Bool.and_eq_true _ _).mp h
      have hmembers :=
        Members.Spelling.cons Text.within_nil
          (Key.spelling_quote key Text.within_nil Text.within_nil)
          (Value.spelling_compact value hvalue) (Members.spelling_compact rest hrest)
      simpa [Members.compact] using hmembers

end

theorem within_margin
    (depth : Nat) :
    Text.Within isSpace (margin depth) := by
  refine Text.within_cons.mpr ⟨by decide, ?_⟩
  intro c hc
  rw [List.eq_of_mem_replicate hc]
  decide

theorem within_space :
    Text.Within isSpace [' '] :=
  Text.within_cons.mpr ⟨by decide, Text.within_nil⟩

mutual

/-- The text over several lines is a text of the value. -/
theorem Value.spelling_pretty
    (depth : Nat)
    (value : Value)
    (h : value.isFinite = true) :
    Value.Spelling (value.pretty depth) value := by
  cases value with
  | natural n => exact .scalar (Scalar.spelling_natural n)
  | number x => exact .scalar (Scalar.spelling_number h)
  | text text => exact .scalar (Scalar.spelling_quote text)
  | object members =>
      cases members with
      | none => exact .empty Text.within_nil
      | cons key value rest =>
          obtain ⟨hvalue, hrest⟩ := (Bool.and_eq_true _ _).mp h
          have hobject :=
            Value.Spelling.object (Key.spelling_quote key (within_margin (depth + 1)) within_space)
              (Value.spelling_pretty (depth + 1) value hvalue)
              (Members.spelling_pretty (depth + 1) rest hrest) (within_margin depth)
          simpa [Value.pretty] using hobject

theorem Members.spelling_pretty
    (depth : Nat)
    (members : Members)
    (h : members.isFinite = true) :
    Members.Spelling (members.pretty depth) members := by
  cases members with
  | none => exact .none
  | cons key value rest =>
      obtain ⟨hvalue, hrest⟩ := (Bool.and_eq_true _ _).mp h
      have hmembers :=
        Members.Spelling.cons Text.within_nil
          (Key.spelling_quote key (within_margin depth) within_space)
          (Value.spelling_pretty depth value hvalue) (Members.spelling_pretty depth rest hrest)
      simpa [Members.pretty] using hmembers

end

/-- A way to write values: what it writes for a value with finite numbers is a text of the value. -/
def IsLayout (write : Value → List Char) : Prop :=
  ∀ value, value.isFinite = true → Value.Spelling (write value) value

theorem isLayout_compact :
    IsLayout Value.compact :=
  Value.spelling_compact

theorem isLayout_pretty :
    IsLayout (Value.pretty 0) :=
  Value.spelling_pretty 0

section Layouts

variable {write : Value → List Char} {value other : Value}

/-- What is written is a document of the value and of no other one. -/
theorem IsLayout.isDocument_iff
    (hwrite : IsLayout write)
    (h : value.isFinite = true) :
    IsDocument (write value) other ↔ other = value := by
  have hdocument : IsDocument (write value) value :=
    ⟨[], write value, [], Text.within_nil, hwrite value h, Text.within_nil, by simp⟩
  constructor
  · intro hother
    exact hother.unique hdocument
  · rintro rfl
    exact hdocument

/-- Different values have different texts. -/
theorem IsLayout.injective
    (hwrite : IsLayout write)
    (h : value.isFinite = true)
    (hother : other.isFinite = true)
    (heq : write value = write other) :
    value = other := by
  have hdocument := (hwrite.isDocument_iff h).mpr rfl
  rw [heq] at hdocument
  exact (hwrite.isDocument_iff hother).mp hdocument

end Layouts

end Json
end LayoutRules
