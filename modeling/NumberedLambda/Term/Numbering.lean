import NumberedLambda.Term.Occurrence

/-!
# Numbered terms

In a term that is read from a source text, numbers count binders: a parameter
has one more than the number of binders of its name around its abstraction,
and a variable has the number of binders of its name around it. So a variable
has the identifier of the nearest binder of its name, or number zero if there
is none.

A term that has been reduced need not be numbered any more, but it stays well
formed, which only says that its lists of parameters are as a source text can
have them and that free identifiers have number zero.
-/

namespace NumberedLambda

namespace Term

/-- The numbers of a term count the binders around each identifier, beginning
with binders of the given names outside the term. -/
def NumberedUnder (names : List String) : Term → Prop
  | .var identifier => identifier.number = names.count identifier.name
  | .app operator operand =>
      operator.NumberedUnder names ∧ operand.NumberedUnder names
  | .lam parameters body =>
      (∀ parameter ∈ parameters,
        parameter.number = names.count parameter.name + 1) ∧
      body.NumberedUnder (parameters.reverse.map Identifier.name ++ names)

/-- The numbers of a term count the binders around each identifier. -/
def Numbered (term : Term) : Prop :=
  term.NumberedUnder []

instance decidableNumberedUnder (names : List String) :
    (term : Term) → Decidable (term.NumberedUnder names)
  | .var identifier =>
      inferInstanceAs (Decidable
        (identifier.number = names.count identifier.name))
  | .app operator operand =>
      have := decidableNumberedUnder names operator
      have := decidableNumberedUnder names operand
      inferInstanceAs (Decidable
        (operator.NumberedUnder names ∧ operand.NumberedUnder names))
  | .lam parameters body =>
      have := decidableNumberedUnder
        (parameters.reverse.map Identifier.name ++ names) body
      inferInstanceAs (Decidable
        ((∀ parameter ∈ parameters,
          parameter.number = names.count parameter.name + 1) ∧
        body.NumberedUnder (parameters.reverse.map Identifier.name ++ names)))

instance (term : Term) : Decidable term.Numbered :=
  decidableNumberedUnder [] term

/-- A term as a source text can have it, up to the exact numbers. -/
structure WellFormed (term : Term) : Prop where
  parameters_ne_nil : ∀ parameters ∈ term.parameterLists, parameters ≠ []
  names_nodup : ∀ parameters ∈ term.parameterLists,
    (parameters.map Identifier.name).Nodup
  number_pos : ∀ binder ∈ term.binders, 0 < binder.number
  number_of_free : ∀ identifier ∈ term.free, identifier.number = 0

/-- No two binders of a term have the same name. -/
def DistinctNames (term : Term) : Prop :=
  (term.binders.map Identifier.name).Nodup

instance (term : Term) : Decidable term.DistinctNames :=
  inferInstanceAs (Decidable (term.binders.map Identifier.name).Nodup)

/-- Every parameter is used at most once in the body that it is bound in. -/
def Affine : Term → Prop
  | .var _ => True
  | .app operator operand => operator.Affine ∧ operand.Affine
  | .lam parameters body =>
      (∀ parameter ∈ parameters, body.free.count parameter ≤ 1) ∧
        body.Affine

instance decidableAffine : (term : Term) → Decidable term.Affine
  | .var _ => inferInstanceAs (Decidable True)
  | .app operator operand =>
      have := decidableAffine operator
      have := decidableAffine operand
      inferInstanceAs (Decidable (operator.Affine ∧ operand.Affine))
  | .lam parameters body =>
      have := decidableAffine body
      inferInstanceAs (Decidable
        ((∀ parameter ∈ parameters, body.free.count parameter ≤ 1) ∧
          body.Affine))

end Term

end NumberedLambda
