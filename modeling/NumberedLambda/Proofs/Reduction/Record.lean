import NumberedLambda.Log.Selection
import NumberedLambda.Normalization.Record
import NumberedLambda.Proofs.Reduction.Normalization

/-!
# What a normalization records

A log that keeps everything has the record of a normalization at its end: the
changing passes, numbered from one, and the end of the budget where the term
still changes. The last term that is shown from the term itself on is the
result of the normalization.
-/

namespace NumberedLambda

namespace Term

/-- The passes that have been recorded are those that led to the current
term. -/
theorem continues_normalizeFrom {before log : Log} {origin : Term}
    {steps : Nat} (budget : Nat)
    (continues : before.Continues (origin.passEvents steps) log) :
    let result := normalizeFrom log steps budget (passes steps origin)
    before.Continues
      (origin.passEvents result.1.steps ++
        if result.1.converged then [] else [.stoppedAtLimit (steps + budget)])
      result.2 := by
  induction budget generalizing log steps with
  | zero =>
      by_cases arrived : (passes steps origin).pass = passes steps origin
      · simpa [normalizeFrom, arrived] using continues
      · simpa [normalizeFrom, arrived] using
          continues.add (.stoppedAtLimit steps)
  | succ budget inductionHypothesis =>
      by_cases arrived : (passes steps origin).pass = passes steps origin
      · simpa [normalizeFrom, arrived] using continues
      · have recorded :=
          continues.add (.reduced (steps + 1) (passes (steps + 1) origin))
        rw [← passEvents_succ] at recorded
        have later := inductionHypothesis recorded
        rw [Nat.add_assoc, Nat.add_comm 1 budget, passes_succ] at later
        rw [normalizeFrom, if_neg arrived]
        exact later

/-- A normalization leaves its record in a log that keeps everything. -/
theorem continues_normalizeLogged {log : Log} (term : Term) (maxSteps : Nat)
    (complete : log.threshold = some .trace) :
    log.Continues (term.normalizationEvents maxSteps)
      (term.normalizeLogged maxSteps log).2 := by
  have start : log.Continues (term.passEvents 0) log := .nothing complete
  have recorded := continues_normalizeFrom maxSteps start
  have sameResult : (normalizeFrom log 0 maxSteps term).1 =
      term.normalize maxSteps :=
    term.normalizeLogged_fst maxSteps log
  simp only [passes_zero, sameResult, Nat.zero_add] at recorded
  exact recorded

/-- The last of the terms that are shown, beginning with the term itself, is
the result of the normalization. -/
theorem getLast?_shownTerms_normalizationEvents (term : Term)
    (maxSteps : Nat) :
    ((.parsed term :: term.normalizationEvents maxSteps).filterMap
      Event.shownTerm?).getLast? = some (term.normalize maxSteps).term := by
  have noneShown (converged : Bool) :
      (if converged then [] else [Event.stoppedAtLimit maxSteps]).filterMap
        Event.shownTerm? = [] := by
    cases converged <;> rfl
  rw [(term.normalize_stopsAfter maxSteps).2, normalizationEvents,
    ← List.cons_append, List.filterMap_append, noneShown, List.append_nil]
  cases (term.normalize maxSteps).steps with
  | zero =>
      rfl
  | succ earlier =>
      rw [passEvents_succ, ← List.cons_append, List.filterMap_append]
      exact List.getLast?_concat

end Term

end NumberedLambda
