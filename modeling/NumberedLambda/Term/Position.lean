import NumberedLambda.Term.Occurrence
import NumberedLambda.Term.Reduction

/-!
# Positions in a term

A position says how to get from a term to one of its parts. The redexes of a
term are the positions of applications of an abstraction, and they can be
contracted one at a time. A redex is outermost if no redex lies on the way to
it.
-/

namespace NumberedLambda

/-- One step from a term to an immediate part of it. -/
inductive Turn where
  | operator
  | operand
  | body
deriving DecidableEq, Repr

/-- The way from a term to a part of it. -/
abbrev Position : Type :=
  List Turn

namespace Term

/-- The part of a term at a position, if the position exists in it. -/
def part? : Term → Position → Option Term
  | term, [] => some term
  | .app operator _, .operator :: position => operator.part? position
  | .app _ operand, .operand :: position => operand.part? position
  | .lam _ body, .body :: position => body.part? position
  | _, _ :: _ => none

/-- Whether there is a redex at a position. -/
def hasRedexAt (term : Term) (position : Position) : Bool :=
  (term.part? position).any isRedex

/-- A redex with no redex on the way to it. -/
def OutermostRedex (term : Term) (position : Position) : Prop :=
  term.hasRedexAt position = true ∧
    ∀ outer, outer <+: position → outer ≠ position →
      term.hasRedexAt outer = false

/-- Contract the redex at a position. A term without a redex there stays as
it is. -/
def contractAt : Term → Position → Term
  | .app (.lam parameters body) operand, [] =>
      contract parameters body operand
  | .app operator operand, .operator :: position =>
      .app (operator.contractAt position) operand
  | .app operator operand, .operand :: position =>
      .app operator (operand.contractAt position)
  | .lam parameters body, .body :: position =>
      .lam parameters (body.contractAt position)
  | term, _ => term

/-- Contract the redexes at several positions, one after the other. -/
def contractAll (term : Term) (positions : List Position) : Term :=
  positions.foldl contractAt term

/-- The positions of the outermost redexes, from left to right. -/
def outermostRedexes : Term → List Position
  | .var _ => []
  | .lam _ body => body.outermostRedexes.map (Turn.body :: ·)
  | .app operator operand =>
      if operator.isLam then
        [[]]
      else
        operator.outermostRedexes.map (Turn.operator :: ·) ++
          operand.outermostRedexes.map (Turn.operand :: ·)

end Term

end NumberedLambda
