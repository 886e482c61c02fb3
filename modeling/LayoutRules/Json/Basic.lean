import LayoutRules.Binary64.Basic

/-!
# Json documents

The documents that describe rule trees: naturals, numbers, texts and objects,
whose members keep the order in which they are given.
-/

namespace LayoutRules
namespace Json

mutual

/-- A document. -/
inductive Value where
  | natural (n : Nat)
  | number (x : Binary64)
  | text (characters : List Char)
  | object (members : Members)

/-- The members of an object. -/
inductive Members where
  | none
  | cons (key : List Char) (value : Value) (rest : Members)

end

namespace Members

/-- A member in front of others, if there is a value for it. -/
def consOptional
    (key : List Char)
    (value : Option Value)
    (rest : Members) :
    Members :=
  match value with
  | Option.none => rest
  | some value => .cons key value rest

end Members

end Json
end LayoutRules
