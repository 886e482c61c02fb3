import LayoutRules.Queue
import LayoutRules.Scanner

/-!
# The answers of a source in turn

A source is asked again and again, and goes on after errors. Its answers are
counted from zero; the source after some requests answers as the whole one
does later.
-/

namespace LayoutRules
namespace Source

variable {σ : Type} [Source σ]

/-- A source after a number of requests. -/
def after (source : σ) : Nat → σ
  | 0 => source
  | count + 1 => (next (after source count)).2

/-- The answer of a source to a request, the first one being number zero. -/
def answer
    (source : σ)
    (index : Nat) :
    Except SourceError Token :=
  (next (after source index)).1

@[simp] theorem after_zero
    (source : σ) :
    after source 0 = source :=
  rfl

theorem after_succ
    (source : σ)
    (count : Nat) :
    after source (count + 1) = (next (after source count)).2 :=
  rfl

theorem next_after
    (source : σ)
    (index : Nat) :
    next (after source index) = (answer source index, after source (index + 1)) :=
  rfl

end Source
end LayoutRules
