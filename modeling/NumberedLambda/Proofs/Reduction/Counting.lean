import NumberedLambda.Term.Numbering
import NumberedLambda.Term.Reduction

/-!
# Counting under reduction

A replacement puts one copy of the value at each free occurrence of the
replaced identifier. So whatever is counted in a term, nodes or binders or free
occurrences, is counted in the value as many times as the identifier occurs. If
it occurs at most once, a contraction makes nothing more of anything, and the
term gets smaller.
-/

namespace NumberedLambda

namespace Term

theorem count_free_lam (parameters : List Identifier) (body : Term)
    (identifier : Identifier) :
    (lam parameters body).free.count identifier =
      if identifier ∈ parameters then 0 else body.free.count identifier := by
  split
  · rename_i bound
    apply List.count_eq_zero.mpr
    intro member
    exact (mem_free_lam.mp member).2 bound
  · rename_i unbound
    have kept : (!parameters.contains identifier) = true := by
      simp [unbound]
    exact List.count_filter kept

theorem count_free_lam_of_not_mem {parameters : List Identifier}
    {identifier : Identifier} (unbound : identifier ∉ parameters)
    (body : Term) :
    (lam parameters body).free.count identifier =
      body.free.count identifier := by
  rw [count_free_lam, if_neg unbound]

theorem count_free_lam_of_mem {parameters : List Identifier}
    {identifier : Identifier} (bound : identifier ∈ parameters)
    (body : Term) :
    (lam parameters body).free.count identifier = 0 := by
  rw [count_free_lam, if_pos bound]

/-! ## Replacement -/

theorem size_replace (term : Term) (target : Identifier) (value : Term) :
    (term.replace target value).size + term.free.count target =
      term.size + term.free.count target * value.size := by
  induction term with
  | var identifier =>
      by_cases same : identifier = target
      · subst same
        simp only [replace, if_true, free, List.count_cons_self, List.count_nil,
          size]
        omega
      · simp [replace, same, free, size]
  | app operator operand operatorHypothesis operandHypothesis =>
      simp only [replace, size, free, List.count_append, Nat.add_mul]
      omega
  | lam parameters body inductionHypothesis =>
      by_cases shadowed : target ∈ parameters
      · rw [replace, if_pos shadowed, count_free_lam_of_mem shadowed,
          Nat.zero_mul]
      · rw [replace, if_neg shadowed, count_free_lam_of_not_mem shadowed, size,
          size]
        omega

theorem count_binders_replace (term : Term) (target : Identifier)
    (value : Term) (binder : Identifier) :
    (term.replace target value).binders.count binder =
      term.binders.count binder +
        term.free.count target * value.binders.count binder := by
  induction term with
  | var identifier =>
      by_cases same : identifier = target
      · simp [replace, same, free]
      · simp [replace, same, free]
  | app operator operand operatorHypothesis operandHypothesis =>
      simp only [replace, binders_app, free, List.count_append, Nat.add_mul,
        operatorHypothesis, operandHypothesis]
      omega
  | lam parameters body inductionHypothesis =>
      by_cases shadowed : target ∈ parameters
      · rw [replace, if_pos shadowed, count_free_lam_of_mem shadowed,
          Nat.zero_mul, Nat.add_zero]
      · rw [replace, if_neg shadowed, count_free_lam_of_not_mem shadowed,
          binders_lam, binders_lam, List.count_append, List.count_append,
          inductionHypothesis, Nat.add_assoc]

/-- The replaced identifier occurs free only in copies of the value, and any
other one there and where it was. A binder may capture some of it. -/
theorem count_free_replace_le (term : Term) (target : Identifier)
    (value : Term) (identifier : Identifier) :
    (term.replace target value).free.count identifier ≤
      (if identifier = target then 0 else term.free.count identifier) +
        term.free.count target * value.free.count identifier := by
  induction term with
  | var occurring =>
      by_cases same : occurring = target
      · simp [replace, same, free]
      · by_cases asked : occurring = identifier
        · subst asked
          simp [replace, same, free]
        · simp [replace, same, free, asked]
  | app operator operand operatorHypothesis operandHypothesis =>
      simp only [replace, free, List.count_append, Nat.add_mul]
      split at operatorHypothesis <;> split at operandHypothesis <;>
        simp_all only [if_true, if_false] <;> omega
  | lam parameters body inductionHypothesis =>
      by_cases shadowed : target ∈ parameters
      · rw [replace, if_pos shadowed]
        split
        · rename_i same
          rw [same, count_free_lam_of_mem shadowed]
          exact Nat.zero_le _
        · exact Nat.le_add_right _ _
      · rw [replace, if_neg shadowed, count_free_lam_of_not_mem shadowed]
        by_cases bound : identifier ∈ parameters
        · rw [count_free_lam_of_mem bound]
          exact Nat.zero_le _
        · rw [count_free_lam_of_not_mem bound, count_free_lam_of_not_mem bound]
          exact inductionHypothesis

/-! ## Contraction -/

variable {parameter : Identifier} {later : List Identifier}
  {body operand : Term}

/-- The contraction of a redex has the parameters that stay in front of the
body, also where none stays. -/
theorem binders_contract :
    (contract (parameter :: later) body operand).binders =
      later ++ (body.replace parameter operand).binders := by
  cases later with
  | nil =>
      rfl
  | cons next rest =>
      exact binders_lam _ _

theorem count_free_contract (identifier : Identifier) :
    (contract (parameter :: later) body operand).free.count identifier =
      (lam later (body.replace parameter operand)).free.count identifier := by
  cases later with
  | nil =>
      rw [contract, count_free_lam_of_not_mem List.not_mem_nil]
  | cons next rest =>
      rfl

theorem affine_contract_iff :
    (contract (parameter :: later) body operand).Affine ↔
      (lam later (body.replace parameter operand)).Affine := by
  cases later with
  | nil =>
      simp [contract, Affine]
  | cons next rest =>
      rfl

theorem size_contract_le :
    (contract (parameter :: later) body operand).size ≤
      (body.replace parameter operand).size + 1 := by
  cases later with
  | nil =>
      exact Nat.le_succ _
  | cons next rest =>
      exact Nat.le_refl _

/-- Contracting a redex whose parameter is used at most once makes the term
smaller. -/
theorem size_contract_lt (once : body.free.count parameter ≤ 1) :
    (contract (parameter :: later) body operand).size <
      (app (lam (parameter :: later) body) operand).size := by
  have bound : (contract (parameter :: later) body operand).size ≤ _ :=
    size_contract_le
  have replaced := size_replace body parameter operand
  have atMostOnce : body.free.count parameter * operand.size ≤
      operand.size := by
    calc
      body.free.count parameter * operand.size ≤ 1 * operand.size :=
        Nat.mul_le_mul_right _ once
      _ = operand.size := Nat.one_mul _
  simp only [size]
  omega

theorem count_binders_contract_le (once : body.free.count parameter ≤ 1)
    (binder : Identifier) :
    (contract (parameter :: later) body operand).binders.count binder ≤
      (app (lam (parameter :: later) body) operand).binders.count binder := by
  have atMostOnce :
      body.free.count parameter * operand.binders.count binder ≤
        1 * operand.binders.count binder :=
    Nat.mul_le_mul_right _ once
  have behind : later.count binder ≤ (parameter :: later).count binder :=
    List.count_le_count_cons
  rw [binders_contract, List.count_append, count_binders_replace, binders_app,
    binders_lam, List.count_append, List.count_append]
  omega

theorem count_free_contract_le (once : body.free.count parameter ≤ 1)
    (identifier : Identifier) :
    (contract (parameter :: later) body operand).free.count identifier ≤
      (app (lam (parameter :: later) body) operand).free.count
        identifier := by
  have replaced := count_free_replace_le body parameter operand identifier
  have atMostOnce :
      body.free.count parameter * operand.free.count identifier ≤
        1 * operand.free.count identifier :=
    Nat.mul_le_mul_right _ once
  rw [count_free_contract, free, List.count_append, count_free_lam,
    count_free_lam]
  by_cases stays : identifier ∈ later
  · simp [stays]
  · by_cases consumed : identifier = parameter
    · subst consumed
      simp only [stays, List.mem_cons, true_or, if_true, if_false]
        at replaced ⊢
      omega
    · simp only [stays, consumed, List.mem_cons, or_self, if_false]
        at replaced ⊢
      omega

end Term

end NumberedLambda
