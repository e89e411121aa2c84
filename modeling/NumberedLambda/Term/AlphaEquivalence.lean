import NumberedLambda.Term

/-!
# Terms up to the choice of bound identifiers

Two terms are equivalent if a consistent renaming of their bound identifiers
makes them equal. Both terms are walked at once, with the list of the pairs of
binders that enclose the current place, innermost first. A variable belongs to
the first pair that carries its identifier on its side; a variable that no
pair carries is free and has to agree exactly.
-/

namespace NumberedLambda

namespace Term

/-- Corresponding variables under `binders`: both bound by the same pair, or
both free and equal. -/
def sameVariable
    (binders : List (Identifier × Identifier))
    (left right : Identifier) : Bool :=
  match binders.findIdx? (fun binder => binder.1 = left),
      binders.findIdx? (fun binder => binder.2 = right) with
  | some leftIndex, some rightIndex => leftIndex == rightIndex
  | none, none => left == right
  | _, _ => false

/-- Equivalence of two terms under paired binders. Abstractions correspond
only if they have the same number of parameters. -/
def alphaEquivalentUnder
    (binders : List (Identifier × Identifier)) : Term → Term → Bool
  | .var left, .var right => sameVariable binders left right
  | .app leftOperator leftOperand, .app rightOperator rightOperand =>
      alphaEquivalentUnder binders leftOperator rightOperator &&
        alphaEquivalentUnder binders leftOperand rightOperand
  | .lam leftParameters leftBody, .lam rightParameters rightBody =>
      leftParameters.length == rightParameters.length &&
        alphaEquivalentUnder
          ((leftParameters.zip rightParameters).reverse ++ binders)
          leftBody rightBody
  | _, _ => false

/-- Whether two terms are equal up to the choice of bound identifiers. -/
def alphaEquivalent (left right : Term) : Bool :=
  alphaEquivalentUnder [] left right

end Term

end NumberedLambda
