import NumberedLambda.Identifier

/-!
# Nameless terms

In a nameless term a bound variable is the number of abstractions between it
and the one that binds it, so no renaming is ever needed: substituting under
an abstraction raises the indices of the value instead. Free variables keep
their identifiers. Every abstraction binds a single variable.

Reduction of nameless terms is what reduction of named terms is measured by.
`Step` contracts one redex anywhere, `Steps` any number of them one after the
other, and `contractOutermost` all outermost redexes at once. The last of
these is a special case of the second (`steps_contractOutermost`).
-/

namespace NumberedLambda

/-- A variable that is bound `index` abstractions further out, a free
variable, an application, or an abstraction. -/
inductive Nameless where
  | bound (index : Nat)
  | free (identifier : Identifier)
  | app (operator operand : Nameless)
  | lam (body : Nameless)
deriving DecidableEq, Repr

namespace Nameless

/-- Raise the indices that refer beyond the `cutoff` innermost abstractions,
to make room for `amount` more abstractions there. -/
def raise (term : Nameless) (amount cutoff : Nat) : Nameless :=
  match term with
  | .bound index =>
      if index < cutoff then .bound index else .bound (index + amount)
  | .free identifier => .free identifier
  | .app operator operand =>
      .app (operator.raise amount cutoff) (operand.raise amount cutoff)
  | .lam body => .lam (body.raise amount (cutoff + 1))

/-- Substitute a value for the variable bound by an abstraction that is taken
away. Between that abstraction and the current place there are `depth`
others; the variables bound further out come one abstraction nearer. -/
def substitute (term : Nameless) (depth : Nat) (value : Nameless) :
    Nameless :=
  match term with
  | .bound index =>
      if index < depth then
        .bound index
      else if index = depth then
        value.raise depth 0
      else
        .bound (index - 1)
  | .free identifier => .free identifier
  | .app operator operand =>
      .app (operator.substitute depth value)
        (operand.substitute depth value)
  | .lam body => .lam (body.substitute (depth + 1) value)

/-- The body of an abstraction with a value for its variable. -/
def instantiate (body value : Nameless) : Nameless :=
  body.substitute 0 value

/-- Substitute a value for a free variable, below `depth` abstractions that
the value has not passed yet. -/
def substituteFree (term : Nameless) (depth : Nat) (target : Identifier)
    (value : Nameless) : Nameless :=
  match term with
  | .bound index => .bound index
  | .free identifier =>
      if identifier = target then value.raise depth 0 else .free identifier
  | .app operator operand =>
      .app (operator.substituteFree depth target value)
        (operand.substituteFree depth target value)
  | .lam body => .lam (body.substituteFree (depth + 1) target value)

/-- An abstraction over `count` variables, one inside the other. -/
def abstractions : (count : Nat) → (body : Nameless) → Nameless
  | 0, body => body
  | count + 1, body => .lam (abstractions count body)

/-- The contraction of one redex, anywhere in a term. -/
inductive Step : Nameless → Nameless → Prop where
  | beta (body operand : Nameless) :
      Step (.app (.lam body) operand) (body.instantiate operand)
  | operator {before after : Nameless} (operand : Nameless) :
      Step before after →
        Step (.app before operand) (.app after operand)
  | operand (operator : Nameless) {before after : Nameless} :
      Step before after →
        Step (.app operator before) (.app operator after)
  | body {before after : Nameless} :
      Step before after → Step (.lam before) (.lam after)

/-- Any number of contractions, one after the other. -/
inductive Steps : Nameless → Nameless → Prop where
  | refl (term : Nameless) : Steps term term
  | head {before between after : Nameless} :
      Step before between → Steps between after → Steps before after

/-- The contraction of every redex that lies in no other redex. -/
def contractOutermost : Nameless → Nameless
  | .bound index => .bound index
  | .free identifier => .free identifier
  | .lam body => .lam body.contractOutermost
  | .app (.lam body) operand => body.instantiate operand
  | .app operator operand =>
      .app operator.contractOutermost operand.contractOutermost

namespace Steps

theorem single {before after : Nameless} (step : Step before after) :
    Steps before after :=
  .head step (.refl after)

theorem trans {before between after : Nameless}
    (first : Steps before between) (second : Steps between after) :
    Steps before after := by
  induction first with
  | refl term =>
      exact second
  | head step later inductionHypothesis =>
      exact .head step (inductionHypothesis second)

theorem operator {before after : Nameless} (operand : Nameless)
    (steps : Steps before after) :
    Steps (.app before operand) (.app after operand) := by
  induction steps with
  | refl term =>
      exact .refl _
  | head step later inductionHypothesis =>
      exact .head (.operator operand step) inductionHypothesis

theorem operand (operator : Nameless) {before after : Nameless}
    (steps : Steps before after) :
    Steps (.app operator before) (.app operator after) := by
  induction steps with
  | refl term =>
      exact .refl _
  | head step later inductionHypothesis =>
      exact .head (.operand operator step) inductionHypothesis

theorem body {before after : Nameless} (steps : Steps before after) :
    Steps (.lam before) (.lam after) := by
  induction steps with
  | refl term =>
      exact .refl _
  | head step later inductionHypothesis =>
      exact .head (.body step) inductionHypothesis

end Steps

/-- Contracting the outermost redexes at once is a sequence of single
contractions. -/
theorem steps_contractOutermost (term : Nameless) :
    Steps term term.contractOutermost := by
  fun_induction contractOutermost term with
  | case1 index =>
      exact .refl _
  | case2 identifier =>
      exact .refl _
  | case3 body inductionHypothesis =>
      exact inductionHypothesis.body
  | case4 body operand =>
      exact .single (.beta body operand)
  | case5 operator operand noRedex operatorHypothesis operandHypothesis =>
      exact (operatorHypothesis.operator operand).trans
        (operandHypothesis.operand _)

end Nameless

end NumberedLambda
