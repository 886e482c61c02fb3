import LayoutRules.Proofs.Rule.Phrase
import LayoutRules.Proofs.Scanner.Surroundings

/-!
# Blanks around a rule

What a rule is read as depends on its source only through the answers to the
first requests, and an error of the source is passed on. So a text and its
trimmed text are read as the same tree or refused for the same reason, but for
the position in a lexical error.
-/

namespace LayoutRules

/-- The error with its position a number of characters further on, if that is in a text. -/
def RuleError.shift (count : Nat) : RuleError → RuleError
  | .lexical error => .lexical (error.shift count)
  | error => error

namespace Rule

variable {σ τ δ : Type} [Source σ] [Source τ] {count : Nat}

theorem shift_ofSource
    (error : SourceError) :
    RuleError.ofSource (error.shift count) = (RuleError.ofSource error).shift count := by
  cases error <;> rfl

/-- An error about a token does not name a position in a text. -/
theorem shift_misfit
    (token : Token)
    (place : Nat) :
    (misfit token place).shift count = misfit token place := by
  cases hmisfit : misfit token place with
  | lexical error => exact absurd hmisfit (misfit_ne_lexical token place error)
  | _ => rfl

theorem fault_mapError
    (place : Nat)
    (answer : Except SourceError Token) :
    fault place (answer.mapError (SourceError.shift count)) =
      (fault place answer).shift count := by
  cases answer with
  | error error => exact shift_ofSource error
  | ok token => exact (shift_misfit token place).symm

/-- An error does not fit its place wherever it is. -/
theorem fits_mapError_iff
    {place : Nat} {answer : Except SourceError Token} :
    Fits place (answer.mapError (SourceError.shift count)) ↔ Fits place answer := by
  cases answer with
  | error error => exact iff_of_false (not_fits_error place _) (not_fits_error place error)
  | ok token => exact Iff.rfl

/-- A source whose errors come later is refused with later errors, and read as the same tree. -/
theorem outcome_of_shifted
    {source : σ} {other : τ}
    (trace : Bool)
    (h :
      ∀ place,
        Source.answer other place =
          (Source.answer source place).mapError (SourceError.shift count)) :
    (outcome trace other : Except RuleError (Tree δ)) =
      (outcome trace source).mapError (RuleError.shift count) := by
  have hfits {place : Nat} :
      Fits place (Source.answer other place) ↔ Fits place (Source.answer source place) := by
    rw [h, fits_mapError_iff]
  rcases delivers_or_refuses (δ := δ) trace source with hdelivers | ⟨place, hplace, hfault⟩
  · obtain ⟨name, op, value, hname, hop, hvalue, hisValue, hfinish, htree⟩ := hdelivers
    have hother :
        Delivers other (.ok (Tree.ofParts name op value) : Except RuleError (Tree δ)) :=
      ⟨name, op, value, by rw [h, hname]; rfl, by rw [h, hop]; rfl, by rw [h, hvalue]; rfl,
        hisValue, by rw [h, hfinish]; rfl, rfl⟩
    rw [htree]
    exact (outcome_eq_ok_iff trace).mpr hother
  · have hother : FirstMisfit other place :=
      ⟨hplace.isPlace, fun earlier hearlier => hfits.mpr (hplace.below earlier hearlier),
        fun hfit => hplace.misfits (hfits.mp hfit)⟩
    rw [hfault, outcome_of_firstMisfit trace hother, h, fault_mapError]
    rfl

/-- A text is read as its trimmed text is, its blanks in front counted in lexical errors. -/
theorem parse_trimmed
    (rule : String) :
    (Tree.parse rule : Except RuleError (Tree δ)) =
      (Tree.parse (String.ofList (Text.trim rule.toList))).mapError
        (RuleError.shift (rule.toList.takeWhile Text.isBlank).length) := by
  rw [parse_eq_outcome, parse_eq_outcome, Scanner.ofString, Scanner.ofString,
    String.toList_ofList]
  exact outcome_of_shifted false (Scanner.surrounds_trim rule.toList).answer_eq

end Rule
end LayoutRules
