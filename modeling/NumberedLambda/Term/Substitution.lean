import NumberedLambda.Term

/-!
# Substitution

Substitution of a term for an identifier, without any renaming. An abstraction
that has the identifier among its parameters is left as it is; any other
abstraction keeps its parameters, so a free identifier of the value may come
to be bound by them. Numbers are there to make this rare, not impossible.
-/

namespace NumberedLambda

namespace Term

/-- Replace every free occurrence of `target` by `value`. -/
def replace (term : Term) (target : Identifier) (value : Term) : Term :=
  match term with
  | .var identifier =>
      if identifier = target then value else .var identifier
  | .app operator operand =>
      .app (operator.replace target value) (operand.replace target value)
  | .lam parameters body =>
      if target ∈ parameters then
        .lam parameters body
      else
        .lam parameters (body.replace target value)

/-- Replacing an identifier that is not free changes nothing. -/
theorem replace_eq_self_of_not_mem_free
    {target : Identifier} {value : Term} :
    ∀ {term : Term}, target ∉ term.free →
      term.replace target value = term
  | .var identifier, absent => by
      have different : identifier ≠ target := by
        intro equality
        exact absent (by simp [equality])
      simp [replace, different]
  | .app operator operand, absent => by
      rw [mem_free_app, not_or] at absent
      simp only [replace, replace_eq_self_of_not_mem_free absent.1,
        replace_eq_self_of_not_mem_free absent.2]
  | .lam parameters body, absent => by
      by_cases bound : target ∈ parameters
      · simp only [replace, bound, if_true]
      · have absentFromBody : target ∉ body.free := by
          intro occurring
          exact absent (mem_free_lam.mpr ⟨occurring, bound⟩)
        simp only [replace, bound, if_false,
          replace_eq_self_of_not_mem_free absentFromBody]

/-- Replacing an identifier by itself changes nothing. -/
theorem replace_self (target : Identifier) (term : Term) :
    term.replace target (.var target) = term := by
  induction term with
  | var identifier =>
      by_cases same : identifier = target
      · rw [replace, if_pos same, same]
      · rw [replace, if_neg same]
  | app operator operand operatorHypothesis operandHypothesis =>
      rw [replace, operatorHypothesis, operandHypothesis]
  | lam parameters body inductionHypothesis =>
      rw [replace, inductionHypothesis]
      split <;> rfl

/-- What is free after a replacement was free before it and is not the replaced
identifier, or it is free in the value. -/
theorem mem_free_of_mem_free_replace
    {target identifier : Identifier} {value term : Term}
    (member : identifier ∈ (term.replace target value).free) :
    identifier ∈ term.free ∧ identifier ≠ target ∨
      identifier ∈ value.free := by
  induction term with
  | var occurring =>
      by_cases same : occurring = target
      · rw [replace, if_pos same] at member
        exact Or.inr member
      · rw [replace, if_neg same] at member
        have equality : identifier = occurring := mem_free_var.mp member
        exact Or.inl ⟨member, equality ▸ same⟩
  | app operator operand operatorHypothesis operandHypothesis =>
      rcases mem_free_app.mp member with inOperator | inOperand
      · exact (operatorHypothesis inOperator).imp_left
          (And.imp_left fun free => mem_free_app.mpr (Or.inl free))
      · exact (operandHypothesis inOperand).imp_left
          (And.imp_left fun free => mem_free_app.mpr (Or.inr free))
  | lam parameters body inductionHypothesis =>
      by_cases bound : target ∈ parameters
      · rw [replace, if_pos bound] at member
        have unbound := (mem_free_lam.mp member).2
        refine Or.inl ⟨member, ?_⟩
        rintro rfl
        exact unbound bound
      · rw [replace, if_neg bound] at member
        obtain ⟨inBody, unbound⟩ := mem_free_lam.mp member
        exact (inductionHypothesis inBody).imp_left
          (And.imp_left fun free => mem_free_lam.mpr ⟨free, unbound⟩)

end Term

end NumberedLambda
