import LayoutRules.Source
import LayoutRules.Tree.Shape

/-!
# Why a rule is not read

Every failure of reading a rule, with its words and its kind.
-/

namespace LayoutRules

/-- What a rule needs at a place. -/
inductive Expectation where
  | attr
  | operator
  | value
  | literal
deriving DecidableEq, Repr

namespace Expectation

/-- Every expectation. -/
def all : List Expectation :=
  [.attr, .operator, .value, .literal]

/-- The expectation in words. -/
def describe : Expectation → String
  | .attr => "attribute"
  | .operator => "assignment operator"
  | .value => "value"
  | .literal => "literal"

end Expectation

/-- The broad kinds of failure. -/
inductive ErrorKind where
  /-- A piece of the text is no lexeme. -/
  | lexical
  /-- The pieces form no rule. -/
  | grammatical
  /-- Memory ran out. -/
  | allocation
deriving DecidableEq, Repr

namespace ErrorKind

/-- The name of the kind. -/
def name : ErrorKind → String
  | .lexical => "Lexical"
  | .grammatical => "Syntax"
  | .allocation => "Allocation"

end ErrorKind

/-- Why a rule is not read. -/
inductive RuleError where
  | lexical (error : SourceError)
  | unexpected (expected : Expectation) (found : String) (position : Nat)
  | empty
  | trailing (found : String) (position : Nat)
  | shape (error : ShapeError)
  | tooLong (length limit : Nat)
  | exhausted
deriving DecidableEq, Repr

namespace RuleError

/-- The error in words. -/
def message : RuleError → String
  | .lexical error => s!"lexical error: {error.message}"
  | .unexpected expected found position =>
      s!"expected {expected.describe}, found {found} at token {position}"
  | .empty => "empty rule"
  | .trailing found position =>
      s!"unexpected {found} after complete rule at token {position}"
  | .shape error => s!"invalid tree: {error.message}"
  | .tooLong length limit => s!"rule is {length} bytes long, limit is {limit}"
  | .exhausted => s!"allocation failed: {exhaustion}"

/-- The kind of the error. -/
def kind : RuleError → ErrorKind
  | .lexical _ => .lexical
  | .exhausted => .allocation
  | _ => .grammatical

/-- A source's error as the reader reports it: a token behind a finish is trailing input. -/
def ofSource : SourceError → RuleError
  | .exhausted => .exhausted
  | .afterFinish found position => .trailing found position
  | error => .lexical error

end RuleError

end LayoutRules
