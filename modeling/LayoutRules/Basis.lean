/-!
# Bases

A basis says what a number is measured in: in units of its own, or as a
percentage of a reference dimension.
-/

namespace LayoutRules

/-- What a number in a rule is a measure of. -/
inductive Basis where
  /-- Plain units, with or without the unit px. -/
  | absolute
  /-- A percentage of the attribute's own reference dimension. -/
  | own
  /-- A percentage of the reference width. -/
  | width
  /-- A percentage of the reference height. -/
  | height
deriving DecidableEq, Repr

namespace Basis

/-- Every basis, the absolute one first. -/
def all : List Basis :=
  [.absolute, .own, .width, .height]

/-- The canonical mark behind a number. -/
def mark : Basis → List Char
  | .absolute => []
  | .own => ['%']
  | .width => ['%', 'w']
  | .height => ['%', 'h']

/-- The basis that a mark behind a number selects; px marks plain units. -/
def ofMark? : List Char → Option Basis
  | [] => some .absolute
  | ['p', 'x'] => some .absolute
  | ['%'] => some .own
  | ['%', 'w'] => some .width
  | ['%', 'h'] => some .height
  | _ => none

/--
The basis of a pair of numbers: an absolute one takes the other's basis, and
two different percentages have the own dimension in common.
-/
def join : Basis → Basis → Basis
  | .absolute, second => second
  | first, .absolute => first
  | first, second => if first = second then first else .own

@[simp] theorem ofMark?_mark
    (basis : Basis) :
    ofMark? basis.mark = some basis := by
  cases basis <;> rfl

/-- Neither component of a pair has precedence. -/
theorem join_comm
    (first second : Basis) :
    join first second = join second first := by
  cases first <;> cases second <;> rfl

end Basis

end LayoutRules
