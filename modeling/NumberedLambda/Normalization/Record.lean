import NumberedLambda.Normalization

/-!
# The record of a normalization

The events that a normalization leaves in a log that keeps everything: one for
each changing pass, in order and numbered from one, and one more if the limit
was reached before the term stopped changing.
-/

namespace NumberedLambda

namespace Term

/-- The events of the first `count` passes over a term. -/
def passEvents (term : Term) (count : Nat) : List Event :=
  (List.range count).map fun index =>
    .reduced (index + 1) (passes (index + 1) term)

/-- The events of the normalization of a term. -/
def normalizationEvents (term : Term) (maxSteps : Nat) : List Event :=
  let outcome := term.normalize maxSteps
  term.passEvents outcome.steps ++
    if outcome.converged then [] else [.stoppedAtLimit maxSteps]

/-- A further pass adds its event at the end. -/
theorem passEvents_succ (term : Term) (count : Nat) :
    term.passEvents (count + 1) =
      term.passEvents count ++
        [.reduced (count + 1) (passes (count + 1) term)] := by
  simp [passEvents, List.range_succ]

end Term

end NumberedLambda
