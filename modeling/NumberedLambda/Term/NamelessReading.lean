import NumberedLambda.Nameless
import NumberedLambda.Term

/-!
# The nameless reading of a term

A variable is bound by the innermost enclosing binder with an equal
identifier; parameters of one list count as nested, the first one outermost.
Reading a term this way leaves only what does not depend on the choice of its
bound identifiers, and it makes a list of parameters the same as one
abstraction inside the other.
-/

namespace NumberedLambda

namespace Term

/-- The variable that an identifier stands for below `binders`, innermost
first. -/
def namelessVariable (binders : List Identifier) (identifier : Identifier) :
    Nameless :=
  match binders.idxOf? identifier with
  | some index => .bound index
  | none => .free identifier

/-- The nameless reading of a term below `binders`, innermost first. -/
def namelessUnder (binders : List Identifier) : Term → Nameless
  | .var identifier => namelessVariable binders identifier
  | .app operator operand =>
      .app (operator.namelessUnder binders) (operand.namelessUnder binders)
  | .lam parameters body =>
      .abstractions parameters.length
        (body.namelessUnder (parameters.reverse ++ binders))

/-- The nameless reading of a term that stands on its own. -/
def nameless (term : Term) : Nameless :=
  term.namelessUnder []

/-- The innermost binder binds its own identifier. -/
theorem namelessVariable_cons_self
    (binders : List Identifier) (identifier : Identifier) :
    namelessVariable (identifier :: binders) identifier = .bound 0 := by
  rw [namelessVariable, List.idxOf?_cons, beq_self_eq_true]
  rfl

/-- An identifier that no binder carries is free. -/
theorem namelessVariable_of_not_mem
    {binders : List Identifier} {identifier : Identifier}
    (unbound : identifier ∉ binders) :
    namelessVariable binders identifier = .free identifier := by
  rw [namelessVariable, List.idxOf?_eq_none_iff.mpr unbound]

/-- Another binder in front is one more abstraction to be passed. -/
theorem namelessVariable_cons_of_ne
    {binder identifier : Identifier} (binders : List Identifier)
    (different : identifier ≠ binder) :
    namelessVariable (binder :: binders) identifier =
      (namelessVariable binders identifier).raise 1 0 := by
  have otherWay : (binder == identifier) = false :=
    beq_false_of_ne different.symm
  rw [namelessVariable, namelessVariable, List.idxOf?_cons, otherWay]
  cases binders.idxOf? identifier <;> rfl

end Term

end NumberedLambda
