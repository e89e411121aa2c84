import NumberedLambda.Term

/-!
# What occurs in a term, and where

A part of a term stands below the binders of the abstractions around it. The
relation `OccursUnder` keeps these binders, innermost first, so a variable is
free where none of them has its identifier (`mem_free_iff_occursUnder`), and
it is captured where one of them is free in what replaces it (`CaptureFree`).
Besides, a term has lists of its parameter lists, of its binders, and of the
identifiers that are used as variables.
-/

namespace NumberedLambda

namespace Term

/-- The parameter lists of the abstractions in a term. -/
def parameterLists : Term → List (List Identifier)
  | .var _ => []
  | .app operator operand => operator.parameterLists ++ operand.parameterLists
  | .lam parameters body => parameters :: body.parameterLists

/-- The parameters of all abstractions in a term. -/
def binders (term : Term) : List Identifier :=
  term.parameterLists.flatten

@[simp]
theorem binders_var (identifier : Identifier) :
    (var identifier).binders = [] :=
  rfl

@[simp]
theorem binders_app (operator operand : Term) :
    (app operator operand).binders = operator.binders ++ operand.binders := by
  rw [binders, parameterLists, List.flatten_append, binders, binders]

@[simp]
theorem binders_lam (parameters : List Identifier) (body : Term) :
    (lam parameters body).binders = parameters ++ body.binders := by
  rw [binders, parameterLists, List.flatten_cons, binders]

/-- The identifiers that occur in a term as variables, bound or not. -/
def occurrences : Term → List Identifier
  | .var identifier => [identifier]
  | .app operator operand => operator.occurrences ++ operand.occurrences
  | .lam _ body => body.occurrences

/-- The identifiers that occur in a term, as variables or as parameters. -/
def identifiers (term : Term) : List Identifier :=
  term.binders ++ term.occurrences

/-- An application whose operator is an abstraction. -/
def isRedex : Term → Bool
  | .app operator _ => operator.isLam
  | _ => false

/-- A part of a term stands below the given binders, innermost first. -/
inductive OccursUnder (part : Term) : List Identifier → Term → Prop where
  | here : OccursUnder part [] part
  | operator {binders : List Identifier} {operator : Term} (operand : Term) :
      OccursUnder part binders operator →
        OccursUnder part binders (.app operator operand)
  | operand {binders : List Identifier} (operator : Term) {operand : Term} :
      OccursUnder part binders operand →
        OccursUnder part binders (.app operator operand)
  | body {binders : List Identifier} (parameters : List Identifier)
      {body : Term} :
      OccursUnder part binders body →
        OccursUnder part (binders ++ parameters.reverse)
          (.lam parameters body)

/-- A part of a term, wherever it stands. -/
def Contains (term part : Term) : Prop :=
  ∃ binders, OccursUnder part binders term

@[simp]
theorem contains_var {identifier : Identifier} {part : Term} :
    (var identifier).Contains part ↔ part = var identifier := by
  constructor
  · rintro ⟨binders, occurs⟩
    cases occurs
    rfl
  · rintro rfl
    exact ⟨[], .here⟩

@[simp]
theorem contains_app {operator operand part : Term} :
    (app operator operand).Contains part ↔
      part = app operator operand ∨ operator.Contains part ∨
        operand.Contains part := by
  constructor
  · rintro ⟨binders, occurs⟩
    cases occurs with
    | here =>
        exact Or.inl rfl
    | operator _ inOperator =>
        exact Or.inr (Or.inl ⟨binders, inOperator⟩)
    | operand _ inOperand =>
        exact Or.inr (Or.inr ⟨binders, inOperand⟩)
  · rintro (rfl | ⟨binders, inOperator⟩ | ⟨binders, inOperand⟩)
    · exact ⟨[], .here⟩
    · exact ⟨binders, .operator operand inOperator⟩
    · exact ⟨binders, .operand operator inOperand⟩

@[simp]
theorem contains_lam {parameters : List Identifier} {body part : Term} :
    (lam parameters body).Contains part ↔
      part = lam parameters body ∨ body.Contains part := by
  constructor
  · rintro ⟨binders, occurs⟩
    cases occurs with
    | here =>
        exact Or.inl rfl
    | body _ inBody =>
        exact Or.inr ⟨_, inBody⟩
  · rintro (rfl | ⟨binders, inBody⟩)
    · exact ⟨[], .here⟩
    · exact ⟨_, .body parameters inBody⟩

/-- An identifier is free in a term if it is used somewhere as a variable
that no binder around it binds. -/
theorem mem_free_iff_occursUnder {identifier : Identifier} {term : Term} :
    identifier ∈ term.free ↔
      ∃ binders, OccursUnder (.var identifier) binders term ∧
        identifier ∉ binders := by
  constructor
  · intro member
    induction term with
    | var occurring =>
        cases mem_free_var.mp member
        exact ⟨[], .here, List.not_mem_nil⟩
    | app operator operand operatorHypothesis operandHypothesis =>
        rcases mem_free_app.mp member with inOperator | inOperand
        · obtain ⟨binders, occurs, unbound⟩ := operatorHypothesis inOperator
          exact ⟨binders, .operator operand occurs, unbound⟩
        · obtain ⟨binders, occurs, unbound⟩ := operandHypothesis inOperand
          exact ⟨binders, .operand operator occurs, unbound⟩
    | lam parameters body inductionHypothesis =>
        obtain ⟨inBody, noParameter⟩ := mem_free_lam.mp member
        obtain ⟨binders, occurs, unbound⟩ := inductionHypothesis inBody
        refine ⟨binders ++ parameters.reverse, .body parameters occurs, ?_⟩
        simp [unbound, noParameter]
  · rintro ⟨binders, occurs, unbound⟩
    induction occurs with
    | here =>
        exact mem_free_var.mpr rfl
    | operator operand occurs inductionHypothesis =>
        exact mem_free_app.mpr (Or.inl (inductionHypothesis unbound))
    | operand operator occurs inductionHypothesis =>
        exact mem_free_app.mpr (Or.inr (inductionHypothesis unbound))
    | body parameters occurs inductionHypothesis =>
        rw [List.mem_append, not_or, List.mem_reverse] at unbound
        exact mem_free_lam.mpr
          ⟨inductionHypothesis unbound.1, unbound.2⟩

/-- Replacing `target` by `value` in a term captures nothing: no free occurrence
of `target` stands below a binder of an identifier that is free in `value`.
Substitution without renaming is right as long as this is so. -/
def CaptureFree (term : Term) (target : Identifier) (value : Term) : Prop :=
  ∀ binders, OccursUnder (.var target) binders term → target ∉ binders →
    ∀ binder ∈ binders, binder ∉ value.free

end Term

end NumberedLambda
