import LayoutRules.Source

/-!
# Queues of tokens

A queue delivers tokens that were classified beforehand, and the finish once
it is empty. A finish that is not the last token is an error; it is taken from
the queue together with the token behind it.
-/

namespace LayoutRules

/-- The tokens still to be delivered and the number of answers they were preceded by. -/
structure Queue where
  pending : List Token
  position : Nat
deriving DecidableEq, Repr

namespace Queue

/-- A queue that has delivered nothing yet. -/
def ofList (tokens : List Token) : Queue :=
  ⟨tokens, 0⟩

/-- The answer to a request. A misplaced finish counts as one answer with the token behind it. -/
def next : Queue → Except SourceError Token × Queue
  | ⟨[], position⟩ => (.ok .finish, ⟨[], position⟩)
  | ⟨.finish :: extra :: rest, position⟩ =>
      (.error (.afterFinish extra.label position), ⟨rest, position + 1⟩)
  | ⟨token :: rest, position⟩ => (.ok token, ⟨rest, position + 1⟩)

instance : Source Queue where
  next := next

end Queue

end LayoutRules
