import NumberedLambda.Term.NamelessReading

/-!
# Abstractions of one parameter

Every list of parameters can be written as abstractions of a single parameter
each, one inside the other. The nameless reading does not tell the two
apart (`namelessUnder_nest`).
-/

namespace NumberedLambda

namespace Term

/-- Abstractions of one parameter each around a body, the first parameter
outermost. -/
def nestParameters (parameters : List Identifier) (body : Term) : Term :=
  parameters.foldr (fun parameter inner => .lam [parameter] inner) body

/-- A term with every list of parameters split into single ones. -/
def nest : Term → Term
  | .var identifier => .var identifier
  | .app operator operand => .app operator.nest operand.nest
  | .lam parameters body => nestParameters parameters body.nest

private theorem namelessUnder_nestParameters
    (parameters binders : List Identifier) (body : Term) :
    (nestParameters parameters body).namelessUnder binders =
      .abstractions parameters.length
        (body.namelessUnder (parameters.reverse ++ binders)) := by
  induction parameters generalizing binders with
  | nil =>
      rfl
  | cons parameter later inductionHypothesis =>
      have inner := inductionHypothesis (parameter :: binders)
      rw [List.reverse_cons, List.append_assoc, List.singleton_append]
      exact congrArg Nameless.lam inner

/-- Splitting lists of parameters does not change the nameless reading. -/
theorem namelessUnder_nest (binders : List Identifier) (term : Term) :
    term.nest.namelessUnder binders = term.namelessUnder binders := by
  induction term generalizing binders with
  | var identifier =>
      rfl
  | app operator operand operatorHypothesis operandHypothesis =>
      simp only [nest, namelessUnder, operatorHypothesis, operandHypothesis]
  | lam parameters body inductionHypothesis =>
      rw [nest, namelessUnder_nestParameters, inductionHypothesis]
      rfl

end Term

end NumberedLambda
