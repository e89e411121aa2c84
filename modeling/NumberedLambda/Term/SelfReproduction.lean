import NumberedLambda.Term.Occurrence
import NumberedLambda.Term.Reduction

/-!
# Terms that reproduce themselves

A pass may contract a redex and still leave the term as it was. The smallest
example is the abstraction that applies its parameter to itself, applied to
itself.
-/

namespace NumberedLambda

namespace Term

/-- The abstraction that applies its parameter to itself. -/
def selfApplication (parameter : Identifier) : Term :=
  .lam [parameter] (.app (.var parameter) (.var parameter))

/-- The application of self-application to itself. -/
def omega (parameter : Identifier) : Term :=
  .app (selfApplication parameter) (selfApplication parameter)

/-- A term none of whose parts is a redex. -/
def Normal (term : Term) : Prop :=
  ∀ part, term.Contains part → part.isRedex = false

/-- A term none of whose parts is a redex, except for parts that reproduce
themselves. -/
def NormalUpToOmega (term : Term) : Prop :=
  ∀ part, term.Contains part → part.isRedex = true →
    ∃ parameter, part = omega parameter

/-- One pass leaves the self-application of self-application as it is. -/
@[simp]
theorem pass_omega (parameter : Identifier) :
    (omega parameter).pass = omega parameter := by
  simp [omega, selfApplication, pass, contract, replace]

/-- A normal term is normal up to reproduction. -/
theorem normalUpToOmega_of_normal {term : Term} (normal : term.Normal) :
    term.NormalUpToOmega := by
  intro part contained redex
  rw [normal part contained] at redex
  cases redex

end Term

end NumberedLambda
