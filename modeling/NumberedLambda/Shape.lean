import NumberedLambda.Term.NamelessReading

/-!
# The shape of a term

The shape of a term forgets the identifiers of its parameters but keeps how
they are grouped into lists. Two terms that differ only in the choice of their
bound identifiers have one shape. Forgetting the grouping as well leaves the
nameless reading (`nameless_shapeUnder`).
-/

namespace NumberedLambda

/-- A variable that is bound `index` binders further out, a free variable, an
application, or an abstraction of `count` variables at once. -/
inductive Shape where
  | bound (index : Nat)
  | free (identifier : Identifier)
  | app (operator operand : Shape)
  | lam (count : Nat) (body : Shape)
deriving DecidableEq, Repr

namespace Shape

/-- A shape with its abstractions taken apart. -/
def nameless : Shape → Nameless
  | .bound index => .bound index
  | .free identifier => .free identifier
  | .app operator operand => .app operator.nameless operand.nameless
  | .lam count body => .abstractions count body.nameless

end Shape

namespace Term

/-- The shape of a term below `binders`, innermost first. Of the parameters
of one list, the last is the innermost. -/
def shapeUnder (binders : List Identifier) : Term → Shape
  | .var identifier =>
      match binders.idxOf? identifier with
      | some index => .bound index
      | none => .free identifier
  | .app operator operand =>
      .app (operator.shapeUnder binders) (operand.shapeUnder binders)
  | .lam parameters body =>
      .lam parameters.length
        (body.shapeUnder (parameters.reverse ++ binders))

/-- The shape of a term that stands on its own. -/
def shape (term : Term) : Shape :=
  term.shapeUnder []

/-- Taking the abstractions of a shape apart gives the nameless reading. -/
theorem nameless_shapeUnder (binders : List Identifier) (term : Term) :
    (term.shapeUnder binders).nameless = term.namelessUnder binders := by
  induction term generalizing binders with
  | var identifier =>
      simp only [shapeUnder, namelessUnder, namelessVariable]
      cases binders.idxOf? identifier <;> rfl
  | app operator operand operatorHypothesis operandHypothesis =>
      simp only [shapeUnder, namelessUnder, Shape.nameless,
        operatorHypothesis, operandHypothesis]
  | lam parameters body inductionHypothesis =>
      simp only [shapeUnder, namelessUnder, Shape.nameless,
        inductionHypothesis]

end Term

end NumberedLambda
