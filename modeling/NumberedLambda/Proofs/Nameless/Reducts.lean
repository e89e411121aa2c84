import NumberedLambda.Nameless

/-!
# The reducts of a nameless term

A term has finitely many redexes, so the terms that one contraction leads to
can be listed. A list of terms that contains all reducts of its members
contains every term that can be reached from them, which decides for such
terms what cannot be reached.
-/

namespace NumberedLambda

namespace Nameless

/-- What the application of an operator contracts to, if it is a redex. -/
def contracted : (operator operand : Nameless) → List Nameless
  | .lam body, operand => [body.instantiate operand]
  | _, _ => []

/-- The terms that one contraction leads to. -/
def reducts : Nameless → List Nameless
  | .bound _ => []
  | .free _ => []
  | .lam body => body.reducts.map .lam
  | .app operator operand =>
      contracted operator operand ++ operator.reducts.map (.app · operand) ++
        operand.reducts.map (.app operator ·)

theorem step_of_mem_reducts {before after : Nameless}
    (member : after ∈ before.reducts) : Step before after := by
  induction before generalizing after with
  | bound index =>
      cases member
  | free identifier =>
      cases member
  | lam body inductionHypothesis =>
      obtain ⟨bodyAfter, inBody, rfl⟩ := List.mem_map.mp member
      exact .body (inductionHypothesis inBody)
  | app operator operand operatorHypothesis operandHypothesis =>
      rw [reducts, List.mem_append, List.mem_append] at member
      rcases member with (atRoot | inOperator) | inOperand
      · cases operator with
        | lam body =>
            cases List.mem_singleton.mp atRoot
            exact .beta body operand
        | bound index =>
            cases atRoot
        | free identifier =>
            cases atRoot
        | app first second =>
            cases atRoot
      · obtain ⟨operatorAfter, member, rfl⟩ := List.mem_map.mp inOperator
        exact .operator operand (operatorHypothesis member)
      · obtain ⟨operandAfter, member, rfl⟩ := List.mem_map.mp inOperand
        exact .operand operator (operandHypothesis member)

theorem mem_reducts_of_step {before after : Nameless}
    (step : Step before after) : after ∈ before.reducts := by
  induction step with
  | beta body operand =>
      exact List.mem_append_left _
        (List.mem_append_left _ (List.mem_singleton_self _))
  | operator operand step inductionHypothesis =>
      exact List.mem_append_left _
        (List.mem_append_right _ (List.mem_map_of_mem inductionHypothesis))
  | operand operator step inductionHypothesis =>
      exact List.mem_append_right _ (List.mem_map_of_mem inductionHypothesis)
  | body step inductionHypothesis =>
      exact List.mem_map_of_mem inductionHypothesis

theorem mem_reducts_iff {before after : Nameless} :
    after ∈ before.reducts ↔ Step before after :=
  ⟨step_of_mem_reducts, mem_reducts_of_step⟩

/-- Contractions do not lead out of a list that contains all reducts of its
members. -/
theorem mem_of_steps {terms : List Nameless}
    (closed : ∀ term ∈ terms, ∀ reduct ∈ term.reducts, reduct ∈ terms)
    {before after : Nameless} (steps : Steps before after)
    (member : before ∈ terms) : after ∈ terms := by
  induction steps with
  | refl term =>
      exact member
  | head step later inductionHypothesis =>
      exact inductionHypothesis
        (closed _ member _ (mem_reducts_iff.mpr step))

end Nameless

end NumberedLambda
