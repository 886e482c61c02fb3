import LayoutRules.Rule.Error

/-!
# Why a command fails
-/

namespace LayoutRules

/-- Why a command fails. -/
inductive CommandError where
  | rule (error : RuleError)
  | source (error : SourceError)
  | input (reason : String)
  | noRule
deriving DecidableEq, Repr

namespace CommandError

/-- The error in words. -/
def message : CommandError → String
  | .rule error => s!"Parse error: {error.message}"
  | .source error => s!"Lexical error: {error.message}"
  | .input reason => s!"IO error: {reason}"
  | .noRule => "No rule provided. Pass it as an argument or pipe it to stdin."

/-- The words of the errors behind a rule's error, the outermost first. -/
def ruleCauses (error : RuleError) : List String :=
  match error with
  | .shape inner => [error.message, inner.message]
  | _ => [error.message]

/-- The words of the errors behind an error, the outermost first. -/
def causes : CommandError → List String
  | .rule error => ruleCauses error
  | .source error => [error.message]
  | .input reason => [reason]
  | .noRule => []

end CommandError

end LayoutRules
