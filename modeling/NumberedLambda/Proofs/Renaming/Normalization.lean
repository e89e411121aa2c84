import NumberedLambda.Proofs.Reduction.Normalization
import NumberedLambda.Proofs.Reduction.Reproduction
import NumberedLambda.Proofs.Renaming.Reduction

/-!
# Normalization of renamed terms

As long as no pass captures anything, renamed terms stay renamed under passes.
Whether a pass changes a term is decided by comparing identifiers, however, and
a redex that reproduces itself up to its bound identifiers changes once more
unless these are already equal. So of two renamed terms with such parts, one
may need one pass more than the other.
-/

namespace NumberedLambda

namespace Term

variable {pairs : List (Identifier × Identifier)} {left right : Term}

/-! ## Self-application -/

theorem renamed_selfApplication (first second : Identifier) :
    RenamedUnder pairs (selfApplication first) (selfApplication second) := by
  have inBody : RenamedUnder ([(first, second)].reverse ++ pairs)
      (.var first) (.var second) := by
    refine .var ?_
    exact (namelessVariable_cons_self _ first).trans
      (namelessVariable_cons_self _ second).symm
  exact .lam [(first, second)] (.app inBody inBody)

theorem eq_selfApplication_of_renamed {parameter : Identifier}
    (renamed : RenamedUnder pairs (selfApplication parameter) right) :
    ∃ other, right = selfApplication other := by
  obtain ⟨both, rightBody, sameParameters, rfl, bodies⟩ :=
    renamed.lam_inversion
  obtain ⟨⟨first, other⟩, rfl, isFirst⟩ :=
    List.map_eq_singleton_iff.mp sameParameters
  subst isFirst
  have eq_other {identifier : Identifier}
      (same : namelessVariable (first :: pairs.map Prod.fst) first =
        namelessVariable (other :: pairs.map Prod.snd) identifier) :
      identifier = other := by
    rw [namelessVariable_cons_self] at same
    have reads : namelessVariable ([] ++ other :: pairs.map Prod.snd)
        identifier = .bound ([] : List Identifier).length :=
      same.symm
    exact (eq_target_of_namelessVariable reads).1
  cases bodies with
  | app operators operands =>
      cases operators with
      | var sameOperator =>
          cases operands with
          | var sameOperand =>
              rw [eq_other sameOperator, eq_other sameOperand]
              exact ⟨other, rfl⟩

theorem pass_selfApplication (first second : Identifier) :
    (app (selfApplication first) (selfApplication second)).pass =
      omega second := by
  simp [omega, selfApplication, pass, contract, replace]

/-- Where a pass leaves a term as it is, it leaves a renamed one renamed, and a
second pass leaves that one as it is. The first one does so already unless the
term contains a part that reproduces itself. -/
theorem RenamedUnder.arrives (renamed : RenamedUnder pairs left right)
    (arrived : left.pass = left) :
    RenamedUnder pairs left right.pass ∧
      right.pass.pass = right.pass ∧
      ((∀ parameter, ¬ left.Contains (omega parameter)) →
        right.pass = right) := by
  fun_induction Term.pass left generalizing pairs right with
  | case1 identifier =>
      cases renamed with
      | var same =>
          exact ⟨.var same, rfl, fun _ => rfl⟩
  | case2 leftParameters leftBody inductionHypothesis =>
      injection arrived with _ bodyArrived
      cases renamed with
      | lam parameters bodies =>
          obtain ⟨bodiesAfter, bodySettled, bodyKept⟩ :=
            inductionHypothesis bodies bodyArrived
          refine ⟨.lam parameters bodiesAfter, ?_, ?_⟩
          · rw [Term.pass, Term.pass, bodySettled]
          · intro noOmega
            rw [Term.pass, bodyKept fun parameter contained =>
              noOmega parameter (contains_lam.mpr (Or.inr contained))]
  | case3 leftParameters leftBody leftOperand =>
      obtain ⟨parameter, isOmega⟩ := eq_omega_of_contract_eq arrived
      rw [isOmega] at renamed ⊢
      cases renamed with
      | app operators operands =>
          obtain ⟨first, rfl⟩ := eq_selfApplication_of_renamed operators
          obtain ⟨second, rfl⟩ := eq_selfApplication_of_renamed operands
          rw [pass_selfApplication, pass_omega]
          refine ⟨.app (renamed_selfApplication _ _) operands, rfl, ?_⟩
          intro noOmega
          exact absurd ⟨[], .here⟩ (noOmega parameter)
  | case4 leftOperator leftOperand noRedex operatorHypothesis
      operandHypothesis =>
      injection arrived with operatorArrived operandArrived
      cases renamed with
      | @app _ _ rightOperator _ rightOperand operators operands =>
          obtain ⟨operatorsAfter, operatorSettled, operatorKept⟩ :=
            operatorHypothesis operators operatorArrived
          obtain ⟨operandsAfter, operandSettled, operandKept⟩ :=
            operandHypothesis operands operandArrived
          have leftNoRedex := isLam_eq_false noRedex
          have rightNoRedex : rightOperator.isLam = false :=
            operators.isLam_eq.symm.trans leftNoRedex
          have stillNoRedex : rightOperator.pass.isLam = false :=
            operatorsAfter.isLam_eq.symm.trans leftNoRedex
          rw [pass_app_of_not_isLam rightOperand rightNoRedex,
            pass_app_of_not_isLam _ stillNoRedex, operatorSettled,
            operandSettled]
          refine ⟨.app operatorsAfter operandsAfter, rfl, ?_⟩
          intro noOmega
          rw [operatorKept fun parameter contained =>
              noOmega parameter (contains_app.mpr (Or.inr (Or.inl contained))),
            operandKept fun parameter contained =>
              noOmega parameter (contains_app.mpr (Or.inr (Or.inr contained)))]

/-! ## Runs -/

theorem RenamedUnder.passes (renamed : RenamedUnder pairs left right)
    (leftProper : left.ProperParameters)
    (rightProper : right.ProperParameters) {count : Nat}
    (leftKept : ∀ earlier < count,
      (Term.passes earlier left).CapturesNothing)
    (rightKept : ∀ earlier < count,
      (Term.passes earlier right).CapturesNothing) :
    RenamedUnder pairs (Term.passes count left)
      (Term.passes count right) := by
  induction count with
  | zero =>
      exact renamed
  | succ count inductionHypothesis =>
      have renamedBefore := inductionHypothesis
        (fun earlier before => leftKept earlier (Nat.lt_succ_of_lt before))
        (fun earlier before => rightKept earlier (Nat.lt_succ_of_lt before))
      rw [passes_succ, passes_succ]
      exact renamedBefore.pass (leftProper.passes count)
        (rightProper.passes count) (leftKept count (Nat.lt_succ_self _))
        (rightKept count (Nat.lt_succ_self _))

/-- What the run that stops first tells about the other one. -/
theorem normalize_of_steps_le {maxSteps : Nat}
    (renamed : RenamedUnder pairs left right)
    (leftProper : left.ProperParameters)
    (rightProper : right.ProperParameters)
    (leftKept : ∀ count < (left.normalize maxSteps).steps,
      (passes count left).CapturesNothing)
    (rightKept : ∀ count < (right.normalize maxSteps).steps,
      (passes count right).CapturesNothing)
    (stopsFirst : (left.normalize maxSteps).steps ≤
      (right.normalize maxSteps).steps) :
    RenamedUnder pairs (left.normalize maxSteps).term
        (right.normalize maxSteps).term ∧
      (right.normalize maxSteps).steps ≤
        (left.normalize maxSteps).steps + 1 ∧
      ((∀ parameter,
          ¬ (left.normalize maxSteps).term.Contains (omega parameter)) →
        (right.normalize maxSteps).steps =
            (left.normalize maxSteps).steps ∧
          ((left.normalize maxSteps).converged = true →
            (right.normalize maxSteps).converged = true)) := by
  obtain ⟨leftStops, leftResult⟩ := left.normalize_stopsAfter maxSteps
  obtain ⟨rightStops, rightResult⟩ := right.normalize_stopsAfter maxSteps
  rw [converged_normalize, converged_normalize, decide_eq_true_iff,
    decide_eq_true_iff, leftResult, rightResult]
  have renamedThere := renamed.passes leftProper rightProper leftKept
    (fun earlier before =>
      rightKept earlier (Nat.lt_of_lt_of_le before stopsFirst))
  generalize (left.normalize maxSteps).steps = steps at *
  generalize (right.normalize maxSteps).steps = rightSteps at *
  rcases Nat.eq_or_lt_of_le stopsFirst with same | later
  · subst same
    refine ⟨renamedThere, Nat.le_succ _, ?_⟩
    intro noOmega
    exact ⟨rfl, fun arrived =>
      (renamedThere.arrives arrived).2.2 noOmega⟩
  · have arrived :=
      leftStops.arrived (Nat.lt_of_lt_of_le later rightStops.count_le)
    obtain ⟨renamedAfter, settled, kept⟩ := renamedThere.arrives arrived
    have onePassMore : rightSteps = steps + 1 := by
      refine Nat.le_antisymm (Nat.le_of_not_lt ?_) later
      intro beyond
      have changes := rightStops.changes (steps + 1) beyond
      rw [passes_succ] at changes
      exact changes settled
    subst onePassMore
    rw [passes_succ]
    refine ⟨renamedAfter, Nat.le_refl _, ?_⟩
    intro noOmega
    exact absurd (kept noOmega) (rightStops.changes steps later)

end Term

end NumberedLambda
