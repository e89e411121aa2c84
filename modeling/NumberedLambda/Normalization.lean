import NumberedLambda.Log
import NumberedLambda.Term.Reduction

/-!
# Normalization

Passes are repeated until one of them leaves the term as it is, or until a
given number of changing passes has been made. A term that reproduces itself
counts as finished, because only the change of the written term is looked at.
When the budget is used up, one more pass decides whether the last allowed
pass had already arrived; this pass is not counted and its result is not kept.
-/

namespace NumberedLambda

/-- The result of repeated passes: the last term, the number of passes that
changed the term, and whether a further pass would leave it as it is. -/
structure Normalization where
  term : Term
  steps : Nat
  converged : Bool
deriving DecidableEq, Repr

namespace Term

/-- Go on with the passes from a term that `steps` passes have led to, with
`budget` more passes allowed. Every changing pass is logged, and so is the
end of the budget if the term still changes. -/
def normalizeFrom (log : Log) (steps : Nat) :
    (budget : Nat) → (current : Term) → Normalization × Log
  | 0, current =>
      if current.pass = current then
        (⟨current, steps, true⟩, log)
      else
        (⟨current, steps, false⟩, log.add (.stoppedAtLimit steps))
  | budget + 1, current =>
      let next := current.pass
      if next = current then
        (⟨current, steps, true⟩, log)
      else
        normalizeFrom (log.add (.reduced (steps + 1) next)) (steps + 1)
          budget next

/-- Normalize a term with at most `maxSteps` changing passes, recording them
in a log. -/
def normalizeLogged (term : Term) (maxSteps : Nat) (log : Log) :
    Normalization × Log :=
  normalizeFrom log 0 maxSteps term

/-- Normalize a term with at most `maxSteps` changing passes. -/
def normalize (term : Term) (maxSteps : Nat) : Normalization :=
  (term.normalizeLogged maxSteps .silent).1

/-- The log does not influence the result. -/
theorem normalizeFrom_log_irrelevant
    (first second : Log) (steps budget : Nat) (current : Term) :
    (normalizeFrom first steps budget current).1 =
      (normalizeFrom second steps budget current).1 := by
  induction budget generalizing first second steps current with
  | zero =>
      simp only [normalizeFrom]
      split <;> rfl
  | succ budget inductionHypothesis =>
      simp only [normalizeFrom]
      split
      · rfl
      · exact inductionHypothesis _ _ _ _

/-- With a log, normalization gives the result it gives without one. -/
theorem normalizeLogged_fst (term : Term) (maxSteps : Nat) (log : Log) :
    (term.normalizeLogged maxSteps log).1 = term.normalize maxSteps :=
  normalizeFrom_log_irrelevant log .silent 0 maxSteps term

end Term

end NumberedLambda
