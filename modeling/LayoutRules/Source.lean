import LayoutRules.Token

/-!
# Sources of tokens

A source delivers a token or an error at each request and goes on after both.
-/

namespace LayoutRules

/-- Why a source has no token to deliver. -/
inductive SourceError where
  /-- No lexeme begins with the character. -/
  | unexpectedCharacter (character : Char) (position : Nat)
  /-- The text begins as a literal and is none. -/
  | malformedLiteral (literal : String) (position : Nat)
  /-- The text of a literal cannot be kept. -/
  | exhausted
  /-- A token follows a finish. -/
  | afterFinish (found : String) (position : Nat)
deriving DecidableEq, Repr

/-- The reason for which no more text can be kept. -/
def exhaustion : String :=
  "memory allocation failed because the computed capacity exceeded the collection's maximum"

namespace SourceError

/-- The error in words. -/
def message : SourceError → String
  | .unexpectedCharacter character position =>
      s!"unexpected character '{character}' at position {position}"
  | .malformedLiteral literal position =>
      s!"malformed literal '{literal}' at position {position}"
  | .exhausted =>
      s!"cannot allocate literal buffer: {exhaustion}"
  | .afterFinish found position =>
      s!"unexpected {found} after end of input at token {position}"

end SourceError

/-- A source of tokens: its answer to a request, and the source after it. -/
class Source (σ : Type) where
  next : σ → Except SourceError Token × σ

end LayoutRules
