import NumberedLambda.Proofs.Reduction.Convergence
import NumberedLambda.Term.Nesting

/-!
# Reduction and lists of parameters

A list of parameters stands for abstractions of one parameter each, one inside
the other. Reduction treats the two in different ways: it takes the first
parameter off a list, and it looks for a replaced identifier in the whole list
at once. The results agree as long as no list is empty or repeats an
identifier. An abstraction without parameters makes a redex that is gone once
the term is nested, and where an identifier is repeated, the first parameter
would be replaced in a body that the second one binds.

Terms that differ only in how their parameters are grouped are written apart
and nested alike, so for normalization it has to be seen besides that no pass
changes the grouping alone (`pass_nest_eq_self_iff`).
-/

namespace NumberedLambda

namespace Term

/-! ## Abstractions of one parameter each -/

@[simp]
theorem nestParameters_nil (body : Term) : nestParameters [] body = body :=
  rfl

@[simp]
theorem nestParameters_cons (parameter : Identifier)
    (later : List Identifier) (body : Term) :
    nestParameters (parameter :: later) body =
      lam [parameter] (nestParameters later body) :=
  rfl

theorem replace_nestParameters_of_mem
    {parameters : List Identifier} {target : Identifier}
    (shadowed : target ∈ parameters) (body value : Term) :
    (nestParameters parameters body).replace target value =
      nestParameters parameters body := by
  induction parameters with
  | nil =>
      cases shadowed
  | cons parameter later inductionHypothesis =>
      by_cases atFirst : target = parameter
      · rw [nestParameters_cons, replace,
          if_pos (List.mem_singleton.mpr atFirst)]
      · have further : target ∈ later :=
          (List.mem_cons.mp shadowed).resolve_left atFirst
        rw [nestParameters_cons, replace,
          if_neg fun inFirst => atFirst (List.mem_singleton.mp inFirst),
          inductionHypothesis further]

theorem replace_nestParameters_of_not_mem
    {parameters : List Identifier} {target : Identifier}
    (visible : target ∉ parameters) (body value : Term) :
    (nestParameters parameters body).replace target value =
      nestParameters parameters (body.replace target value) := by
  induction parameters with
  | nil =>
      rfl
  | cons parameter later inductionHypothesis =>
      rw [List.mem_cons, not_or] at visible
      rw [nestParameters_cons, replace,
        if_neg fun inFirst => visible.1 (List.mem_singleton.mp inFirst),
        inductionHypothesis visible.2, nestParameters_cons]

theorem pass_nestParameters (parameters : List Identifier) (body : Term) :
    (nestParameters parameters body).pass =
      nestParameters parameters body.pass := by
  induction parameters with
  | nil =>
      rfl
  | cons parameter later inductionHypothesis =>
      rw [nestParameters_cons, pass, inductionHypothesis,
        nestParameters_cons]

theorem normalUpToOmega_nestParameters
    {parameters : List Identifier} {body : Term} :
    (nestParameters parameters body).NormalUpToOmega ↔
      body.NormalUpToOmega := by
  induction parameters with
  | nil =>
      rfl
  | cons parameter later inductionHypothesis =>
      rw [nestParameters_cons, normalUpToOmega_lam, inductionHypothesis]

/-! ## Passes -/

/-- Replacing an identifier does not depend on how parameters are grouped. -/
theorem nest_replace (term : Term) (target : Identifier) (value : Term) :
    (term.replace target value).nest =
      term.nest.replace target value.nest := by
  induction term with
  | var identifier =>
      by_cases same : identifier = target
      · rw [replace, if_pos same, nest, replace, if_pos same]
      · rw [replace, if_neg same, nest, replace, if_neg same]
  | app operator operand operatorHypothesis operandHypothesis =>
      rw [replace, nest, nest, replace, operatorHypothesis,
        operandHypothesis]
  | lam parameters body inductionHypothesis =>
      by_cases shadowed : target ∈ parameters
      · rw [replace, if_pos shadowed, nest,
          replace_nestParameters_of_mem shadowed]
      · rw [replace, if_neg shadowed, nest, nest,
          replace_nestParameters_of_not_mem shadowed, inductionHypothesis]

/-- The parameters that stay after a contraction are nested around what it
makes of the body. -/
theorem nest_contract (parameter : Identifier) (later : List Identifier)
    (body operand : Term) :
    (contract (parameter :: later) body operand).nest =
      nestParameters later (body.replace parameter operand).nest := by
  cases later with
  | nil =>
      rfl
  | cons next rest =>
      rfl

/-- Nesting makes and takes away no abstraction at the head of a term. -/
theorem isLam_nest {term : Term} (proper : term.ProperParameters) :
    term.nest.isLam = term.isLam := by
  cases term with
  | var identifier =>
      rfl
  | app operator operand =>
      rfl
  | lam parameters body =>
      have nonempty := (proper parameters (List.mem_cons_self ..)).1
      obtain ⟨parameter, later, rfl⟩ := List.exists_cons_of_ne_nil nonempty
      rfl

/-- A pass over a nested term nests what the pass makes of the term. -/
theorem nest_pass {term : Term} (proper : term.ProperParameters) :
    term.pass.nest = term.nest.pass := by
  fun_induction pass term with
  | case1 identifier =>
      rfl
  | case2 parameters body inductionHypothesis =>
      rw [nest, nest, pass_nestParameters, inductionHypothesis proper.body]
  | case3 parameters body operand =>
      obtain ⟨nonempty, nodup⟩ :=
        proper.operator parameters (List.mem_cons_self ..)
      obtain ⟨parameter, later, rfl⟩ := List.exists_cons_of_ne_nil nonempty
      have visible : parameter ∉ later := (List.nodup_cons.mp nodup).1
      rw [nest_contract, nest_replace,
        ← replace_nestParameters_of_not_mem visible]
      rfl
  | case4 operator operand noRedex operatorHypothesis operandHypothesis =>
      have noAbstraction : operator.nest.isLam = false := by
        rw [isLam_nest proper.operator]
        exact isLam_eq_false noRedex
      rw [nest, nest, pass_app_of_not_isLam _ noAbstraction,
        operatorHypothesis proper.operator, operandHypothesis proper.operand]

theorem passes_nest {term : Term} (proper : term.ProperParameters)
    (count : Nat) : passes count term.nest = (passes count term).nest := by
  induction count with
  | zero =>
      rfl
  | succ count inductionHypothesis =>
      rw [passes_succ, passes_succ, inductionHypothesis,
        nest_pass (proper.passes count)]

/-! ## Terms that passes leave as they are -/

theorem eq_var_of_nest_eq {term : Term} {identifier : Identifier}
    (proper : term.ProperParameters) (nested : term.nest = var identifier) :
    term = var identifier := by
  cases term with
  | var other =>
      exact nested
  | app operator operand =>
      cases nested
  | lam parameters body =>
      have sameHead := isLam_nest proper
      rw [nested] at sameHead
      cases sameHead

theorem eq_selfApplication_of_nest_eq {term : Term} {parameter : Identifier}
    (proper : term.ProperParameters)
    (nested : term.nest = selfApplication parameter) :
    term = selfApplication parameter := by
  cases term with
  | var identifier =>
      cases nested
  | app operator operand =>
      cases nested
  | lam parameters body =>
      have nonempty := (proper parameters (List.mem_cons_self ..)).1
      obtain ⟨first, later, rfl⟩ := List.exists_cons_of_ne_nil nonempty
      rw [nest, nestParameters_cons, selfApplication, lam.injEq] at nested
      obtain ⟨sameParameter, nestedBody⟩ := nested
      cases sameParameter
      -- The body of the self-application is no abstraction, so there is no
      -- further parameter, and the body itself is an application.
      cases later with
      | cons next rest =>
          cases nestedBody
      | nil =>
          cases body with
          | var identifier =>
              cases nestedBody
          | app operator operand =>
              rw [nestParameters_nil, nest, app.injEq] at nestedBody
              have isOperator := eq_var_of_nest_eq proper.body.operator
                nestedBody.1
              have isOperand := eq_var_of_nest_eq proper.body.operand
                nestedBody.2
              rw [isOperator, isOperand, selfApplication]
          | lam others inner =>
              have sameHead := isLam_nest proper.body
              rw [nestParameters_nil] at nestedBody
              rw [nestedBody] at sameHead
              cases sameHead

theorem nest_eq_omega_iff {term : Term} {parameter : Identifier}
    (proper : term.ProperParameters) :
    term.nest = omega parameter ↔ term = omega parameter := by
  constructor
  · intro nested
    cases term with
    | var identifier =>
        cases nested
    | app operator operand =>
        rw [nest, omega, app.injEq] at nested
        rw [eq_selfApplication_of_nest_eq proper.operator nested.1,
          eq_selfApplication_of_nest_eq proper.operand nested.2, omega]
    | lam parameters body =>
        have sameHead := isLam_nest proper
        rw [nested] at sameHead
        cases sameHead
  · rintro rfl
    rfl

theorem normalUpToOmega_nest_iff {term : Term}
    (proper : term.ProperParameters) :
    term.nest.NormalUpToOmega ↔ term.NormalUpToOmega := by
  fun_induction pass term with
  | case1 identifier =>
      rfl
  | case2 parameters body inductionHypothesis =>
      rw [nest, normalUpToOmega_nestParameters, normalUpToOmega_lam,
        inductionHypothesis proper.body]
  | case3 parameters body operand =>
      have nonempty :=
        (proper.operator parameters (List.mem_cons_self ..)).1
      obtain ⟨parameter, later, rfl⟩ := List.exists_cons_of_ne_nil nonempty
      have sameOmega : ∀ other,
          (app (lam (parameter :: later) body) operand).nest = omega other ↔
            app (lam (parameter :: later) body) operand = omega other :=
        fun other => nest_eq_omega_iff proper
      calc (app (lam (parameter :: later) body) operand).nest.NormalUpToOmega
        _ ↔ ∃ other,
              (app (lam (parameter :: later) body) operand).nest =
                omega other :=
            normalUpToOmega_redex
        _ ↔ ∃ other,
              app (lam (parameter :: later) body) operand = omega other :=
            exists_congr sameOmega
        _ ↔ (app (lam (parameter :: later) body) operand).NormalUpToOmega :=
            normalUpToOmega_redex.symm
  | case4 operator operand noRedex operatorHypothesis operandHypothesis =>
      have noAbstraction := isLam_eq_false noRedex
      have noneNested : operator.nest.isLam = false := by
        rw [isLam_nest proper.operator, noAbstraction]
      rw [nest, normalUpToOmega_app noneNested,
        normalUpToOmega_app noAbstraction,
        operatorHypothesis proper.operator, operandHypothesis proper.operand]

/-- A pass that changes a term changes more than how parameters are
grouped. -/
theorem pass_nest_eq_self_iff {term : Term}
    (proper : term.ProperParameters) :
    term.nest.pass = term.nest ↔ term.pass = term := by
  rw [pass_eq_self_iff, pass_eq_self_iff, normalUpToOmega_nest_iff proper]

/-! ## Normalization -/

theorem StopsAfter.nest {term : Term} {maxSteps count : Nat}
    (proper : term.ProperParameters)
    (stops : term.StopsAfter maxSteps count) :
    term.nest.StopsAfter maxSteps count where
  count_le := stops.count_le
  changes := by
    intro earlier before
    rw [passes_nest proper, Ne,
      pass_nest_eq_self_iff (proper.passes earlier)]
    exact stops.changes earlier before
  arrived := by
    intro allowed
    rw [passes_nest proper, pass_nest_eq_self_iff (proper.passes count)]
    exact stops.arrived allowed

/-- Nested abstractions reduce like the lists of parameters they stand for, in
a pass and in a whole normalization: the results differ only in the grouping of
parameters, and they are reached after as many steps. -/
theorem nest_reduces_alike {term : Term} (proper : term.ProperParameters) :
    term.pass.nest = term.nest.pass ∧
    ∀ maxSteps,
      (term.nest.normalize maxSteps).term =
          (term.normalize maxSteps).term.nest ∧
        (term.nest.normalize maxSteps).steps =
          (term.normalize maxSteps).steps ∧
        (term.nest.normalize maxSteps).converged =
          (term.normalize maxSteps).converged := by
  refine ⟨nest_pass proper, ?_⟩
  intro maxSteps
  obtain ⟨stops, result⟩ := term.normalize_stopsAfter maxSteps
  obtain ⟨nestStops, nestResult⟩ := term.nest.normalize_stopsAfter maxSteps
  have sameSteps := nestStops.unique (stops.nest proper)
  have sameTerm :
      (term.nest.normalize maxSteps).term =
        (term.normalize maxSteps).term.nest := by
    rw [nestResult, sameSteps, passes_nest proper, ← result]
  have stillProper : (term.normalize maxSteps).term.ProperParameters := by
    rw [result]
    exact proper.passes _
  refine ⟨sameTerm, sameSteps, ?_⟩
  rw [converged_normalize, converged_normalize, sameTerm,
    decide_eq_decide, pass_nest_eq_self_iff stillProper]

/-- The term `(\x y z. x z (y z)) (\a b. a)` keeps two of its parameters to the
end, and so does its nested form, as two abstractions. -/
theorem selection_reduces_alike :
    let x : Identifier := ⟨"x", 1⟩
    let y : Identifier := ⟨"y", 1⟩
    let z : Identifier := ⟨"z", 1⟩
    let a : Identifier := ⟨"a", 1⟩
    let b : Identifier := ⟨"b", 1⟩
    let selection : Term :=
      .app
        (.lam [x, y, z]
          (.app (.app (.var x) (.var z)) (.app (.var y) (.var z))))
        (.lam [a, b] (.var a))
    selection.ProperParameters ∧
      (selection.normalize 9).term = .lam [y, z] (.var z) ∧
      (selection.nest.normalize 9).term = .lam [y] (.lam [z] (.var z)) ∧
      (selection.nest.normalize 9).steps = 3 ∧
      (selection.nest.normalize 9).converged = true := by
  intro x y z a b selection
  have proper : selection.ProperParameters := by
    unfold ProperParameters
    decide
  obtain ⟨sameTerm, sameSteps, sameEnd⟩ := (nest_reduces_alike proper).2 9
  rw [sameTerm, sameSteps, sameEnd]
  exact ⟨proper, by decide, by decide, by decide, by decide⟩

end Term

end NumberedLambda
