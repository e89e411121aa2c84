import NumberedLambda.Term.SelfReproduction

/-!
# Redexes that reproduce themselves

The contraction of a redex can be the redex again. The size of the term leaves
no room for this unless the body is an application of the parameter to itself
and the operand is the abstraction itself, so the only such redex is the
self-application of self-application.
-/

namespace NumberedLambda

namespace Term

/-- An abstraction over the replaced identifier comes from an occurrence of the
identifier, or it has been there before. -/
theorem eq_of_replace_eq_lam {term value body : Term} {target : Identifier}
    (replaced : term.replace target value = .lam [target] body) :
    (term = .var target ∧ value = .lam [target] body) ∨
      term = .lam [target] body := by
  cases term with
  | var identifier =>
      by_cases same : identifier = target
      · rw [replace, if_pos same] at replaced
        exact Or.inl ⟨congrArg Term.var same, replaced⟩
      · rw [replace, if_neg same] at replaced
        cases replaced
  | app operator operand =>
      cases replaced
  | lam parameters inner =>
      by_cases shadowed : target ∈ parameters
      · rw [replace, if_pos shadowed] at replaced
        exact Or.inr replaced
      · rw [replace, if_neg shadowed] at replaced
        injection replaced with sameParameters sameBody
        rw [sameParameters] at shadowed
        exact absurd (List.mem_singleton_self target) shadowed

theorem ne_of_size_ne {first second : Term}
    (different : first.size ≠ second.size) : first ≠ second :=
  fun same => different (congrArg Term.size same)

theorem eq_selfApplication_of_replace_eq {parameter : Identifier}
    {body operand : Term}
    (reproduced : body.replace parameter operand =
      .app (.lam [parameter] body) operand) :
    body = .app (.var parameter) (.var parameter) ∧
      operand = selfApplication parameter := by
  cases body with
  | var identifier =>
      by_cases same : identifier = parameter
      · rw [replace, if_pos same] at reproduced
        have larger := congrArg Term.size reproduced
        simp only [size] at larger
        omega
      · rw [replace, if_neg same] at reproduced
        cases reproduced
  | lam parameters inner =>
      unfold replace at reproduced
      split at reproduced <;> cases reproduced
  | app first second =>
      injection reproduced with operatorReplaced operandReplaced
      -- Neither side is an abstraction that contains itself.
      have firstSmaller : first ≠ .lam [parameter] (.app first second) := by
        apply ne_of_size_ne
        simp only [size]
        omega
      have secondSmaller :
          second ≠ .lam [parameter] (.app first second) := by
        apply ne_of_size_ne
        simp only [size]
        omega
      obtain ⟨firstIsParameter, operandShape⟩ :=
        (eq_of_replace_eq_lam operatorReplaced).resolve_right firstSmaller
      rw [operandShape] at operandReplaced
      obtain ⟨secondIsParameter, _⟩ :=
        (eq_of_replace_eq_lam operandReplaced).resolve_right secondSmaller
      rw [firstIsParameter, secondIsParameter] at operandShape ⊢
      exact ⟨rfl, operandShape⟩

/-- A redex that is its own contraction is the self-application of
self-application. -/
theorem eq_omega_of_contract_eq {parameters : List Identifier}
    {body operand : Term}
    (reproduced : contract parameters body operand =
      .app (.lam parameters body) operand) :
    ∃ parameter, app (.lam parameters body) operand = omega parameter := by
  match parameters with
  | [] =>
      injection reproduced with sameOperator
      have larger := congrArg Term.size sameOperator
      simp only [size] at larger
      omega
  | [parameter] =>
      obtain ⟨rfl, rfl⟩ := eq_selfApplication_of_replace_eq reproduced
      exact ⟨parameter, rfl⟩
  | parameter :: next :: later =>
      cases reproduced

end Term

end NumberedLambda
