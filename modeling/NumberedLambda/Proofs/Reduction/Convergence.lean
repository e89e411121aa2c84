import NumberedLambda.Proofs.Reduction.Normalization
import NumberedLambda.Proofs.Reduction.Parameters
import NumberedLambda.Proofs.Reduction.Reproduction

/-!
# Terms that passes leave as they are

Whether normalization has arrived is decided by comparing a term with what a
pass makes of it, not by looking for redexes. This is right except for the
self-application of self-application: any other contraction changes the redex
that it contracts. So a pass leaves a term as it is exactly if the term is
normal up to such parts.
-/

namespace NumberedLambda

namespace Term

/-! ## Normal terms and their parts -/

@[simp]
theorem normalUpToOmega_var (identifier : Identifier) :
    (var identifier).NormalUpToOmega := by
  intro part contained redex
  rw [contains_var] at contained
  subst contained
  cases redex

theorem normalUpToOmega_lam {parameters : List Identifier} {body : Term} :
    (lam parameters body).NormalUpToOmega ↔ body.NormalUpToOmega := by
  constructor
  · intro normal part contained
    exact normal part (contains_lam.mpr (Or.inr contained))
  · intro normal part contained redex
    rcases contains_lam.mp contained with rfl | inBody
    · cases redex
    · exact normal part inBody redex

theorem normalUpToOmega_app {operator operand : Term}
    (noRedex : operator.isLam = false) :
    (app operator operand).NormalUpToOmega ↔
      operator.NormalUpToOmega ∧ operand.NormalUpToOmega := by
  constructor
  · intro normal
    constructor
    · intro part inOperator
      exact normal part (contains_app.mpr (Or.inr (Or.inl inOperator)))
    · intro part inOperand
      exact normal part (contains_app.mpr (Or.inr (Or.inr inOperand)))
  · rintro ⟨operatorNormal, operandNormal⟩ part contained redex
    rcases contains_app.mp contained with rfl | inOperator | inOperand
    · rw [isRedex, noRedex] at redex
      cases redex
    · exact operatorNormal part inOperator redex
    · exact operandNormal part inOperand redex

theorem normalUpToOmega_selfApplication (parameter : Identifier) :
    (selfApplication parameter).NormalUpToOmega := by
  rw [selfApplication, normalUpToOmega_lam, normalUpToOmega_app rfl]
  exact ⟨normalUpToOmega_var parameter, normalUpToOmega_var parameter⟩

theorem normalUpToOmega_omega (parameter : Identifier) :
    (omega parameter).NormalUpToOmega := by
  intro part contained redex
  rcases contains_app.mp contained with rfl | inside | inside
  · exact ⟨parameter, rfl⟩
  · exact normalUpToOmega_selfApplication parameter part inside redex
  · exact normalUpToOmega_selfApplication parameter part inside redex

theorem normalUpToOmega_redex {parameters : List Identifier}
    {body operand : Term} :
    (app (lam parameters body) operand).NormalUpToOmega ↔
      ∃ parameter, app (lam parameters body) operand = omega parameter := by
  constructor
  · intro normal
    exact normal _ ⟨[], .here⟩ rfl
  · rintro ⟨parameter, isOmega⟩
    rw [isOmega]
    exact normalUpToOmega_omega parameter

/-! ## Passes and normal terms -/

/-- A redex is its own contraction only where it reproduces itself. -/
theorem contract_eq_self_iff {parameters : List Identifier}
    {body operand : Term} :
    contract parameters body operand = app (lam parameters body) operand ↔
      ∃ parameter, app (lam parameters body) operand = omega parameter := by
  constructor
  · exact eq_omega_of_contract_eq
  · rintro ⟨parameter, isOmega⟩
    have kept := pass_omega parameter
    rw [← isOmega] at kept
    exact kept

theorem pass_eq_self_iff {term : Term} :
    term.pass = term ↔ term.NormalUpToOmega := by
  fun_induction pass term with
  | case1 identifier =>
      exact iff_of_true rfl (normalUpToOmega_var identifier)
  | case2 parameters body inductionHypothesis =>
      rw [lam.injEq, normalUpToOmega_lam, inductionHypothesis]
      exact and_iff_right rfl
  | case3 parameters body operand =>
      rw [contract_eq_self_iff, normalUpToOmega_redex]
  | case4 operator operand noRedex operatorHypothesis operandHypothesis =>
      rw [app.injEq, normalUpToOmega_app (isLam_eq_false noRedex),
        operatorHypothesis, operandHypothesis]

/-- A pass leaves a term as it is if and only if every redex in the term is the
self-application of self-application, whatever the lists of parameters are.
Hence normalization has converged if and only if its result contains no other
redex. -/
theorem converged_iff_normalUpToOmega :
    (∀ term : Term, term.pass = term ↔ term.NormalUpToOmega) ∧
    ∀ (term : Term) (maxSteps : Nat),
      (term.normalize maxSteps).converged = true ↔
        (term.normalize maxSteps).term.NormalUpToOmega := by
  refine ⟨fun term => pass_eq_self_iff, ?_⟩
  intro term maxSteps
  rw [converged_normalize, decide_eq_true_iff, pass_eq_self_iff]

end Term

end NumberedLambda
