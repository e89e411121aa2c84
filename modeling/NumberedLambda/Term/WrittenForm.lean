import NumberedLambda.Character.Classes
import NumberedLambda.Term.Occurrence

/-!
# What a written term stands for

The written form of a term shows identifiers as names, so reading it again
gives other identifiers: a binder and the variables that belong to it are
renamed together, and a free identifier becomes the name that shows its number
in full.
-/

namespace NumberedLambda

/-- An identifier whose name can be part of an identifier in a source
text. -/
def Identifier.Readable (identifier : Identifier) : Prop :=
  ∀ character ∈ identifier.name.toList,
    Character.isIdentifierCharacter character = true

namespace Term

/-- A term all of whose names can be part of identifiers in a source text. -/
def Readable (term : Term) : Prop :=
  ∀ identifier ∈ term.identifiers, identifier.Readable

@[simp]
theorem readable_var {identifier : Identifier} :
    (var identifier).Readable ↔ identifier.Readable := by
  simp [Readable, identifiers, occurrences]

@[simp]
theorem readable_app {operator operand : Term} :
    (app operator operand).Readable ↔
      operator.Readable ∧ operand.Readable := by
  simp only [Readable, identifiers, occurrences, binders_app,
    List.mem_append, or_imp, forall_and]
  exact and_and_and_comm

@[simp]
theorem readable_lam {parameters : List Identifier} {body : Term} :
    (lam parameters body).Readable ↔
      (∀ parameter ∈ parameters, parameter.Readable) ∧ body.Readable := by
  simp only [Readable, identifiers, occurrences, binders_lam,
    List.mem_append, or_imp, forall_and, and_assoc]

/-- A term below `binders` with every free identifier turned into the name by
which it is written. -/
def asWrittenUnder (binders : List Identifier) : Term → Term
  | .var identifier =>
      if identifier ∈ binders then
        .var identifier
      else
        .var ⟨identifier.render, 0⟩
  | .app operator operand =>
      .app (operator.asWrittenUnder binders) (operand.asWrittenUnder binders)
  | .lam parameters body =>
      .lam parameters (body.asWrittenUnder (parameters.reverse ++ binders))

/-- A term with every free identifier turned into the name by which it is
written. -/
def asWritten (term : Term) : Term :=
  term.asWrittenUnder []

end Term

end NumberedLambda
