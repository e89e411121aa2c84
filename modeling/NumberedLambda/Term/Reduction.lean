import NumberedLambda.Term.Substitution

/-!
# Reduction passes

One pass contracts every outermost redex of a term at once. A redex is an
application whose operator is written as an abstraction; contracting it
consumes the first parameter. What stands inside a redex waits for the next
pass, and so does an application that becomes a redex only by this pass.
-/

namespace NumberedLambda

namespace Term

/-- The contraction of an abstraction applied to an operand. The parameters
after the first one stay; without any parameter the abstraction stands for
its body. -/
def contract : List Identifier → Term → Term → Term
  | [], body, operand => .app body operand
  | [parameter], body, operand => body.replace parameter operand
  | parameter :: next :: later, body, operand =>
      .lam (next :: later) (body.replace parameter operand)

/-- One reduction pass over a term. -/
def pass : Term → Term
  | .var identifier => .var identifier
  | .lam parameters body => .lam parameters body.pass
  | .app (.lam parameters body) operand =>
      contract parameters body operand
  | .app operator operand => .app operator.pass operand.pass

/-- The term after a number of passes. -/
def passes : Nat → Term → Term
  | 0, term => term
  | count + 1, term => passes count term.pass

theorem isLam_eq_false {operator : Term}
    (noAbstraction : ∀ parameters body, operator ≠ .lam parameters body) :
    operator.isLam = false := by
  cases operator with
  | lam parameters body =>
      exact absurd rfl (noAbstraction parameters body)
  | _ =>
      rfl

/-- An application whose operator is no abstraction has both sides reduced on
their own. -/
theorem pass_app_of_not_isLam
    {operator : Term} (operand : Term)
    (noRedex : operator.isLam = false) :
    (app operator operand).pass = app operator.pass operand.pass := by
  cases operator with
  | var identifier =>
      rfl
  | app first second =>
      rfl
  | lam parameters body =>
      cases noRedex

@[simp]
theorem passes_zero (term : Term) : passes 0 term = term :=
  rfl

theorem passes_succ (count : Nat) (term : Term) :
    passes (count + 1) term = (passes count term).pass := by
  induction count generalizing term with
  | zero =>
      rfl
  | succ count inductionHypothesis =>
      exact inductionHypothesis term.pass

/-- What a pass keeps, any number of passes keeps. -/
theorem passes_induction {motive : Term → Prop}
    (kept : ∀ term, motive term → motive term.pass) {term : Term}
    (start : motive term) (count : Nat) : motive (passes count term) := by
  induction count with
  | zero =>
      exact start
  | succ count inductionHypothesis =>
      rw [passes_succ]
      exact kept _ inductionHypothesis

theorem passes_add (first second : Nat) (term : Term) :
    passes (first + second) term = passes second (passes first term) := by
  induction first generalizing term with
  | zero =>
      simp
  | succ first inductionHypothesis =>
      rw [Nat.add_right_comm]
      exact inductionHypothesis term.pass

end Term

end NumberedLambda
