import NumberedLambda.Parser.Expression

/-!
# The tokens with which a rule begins

Whether a rule of the grammar applies is decided by the current token alone.
The rules are listed here together with the tokens that each of them can begin
with.
-/

namespace NumberedLambda

namespace Token

/-- The tokens with which an abstraction begins. -/
def beginsAbstraction : Token → Bool
  | .backslash => true
  | _ => false

/-- The tokens with which a variable begins. -/
def beginsReference : Token → Bool
  | .identifier _ => true
  | _ => false

/-- The tokens with which an expression in parentheses begins. -/
def beginsParenthesized : Token → Bool
  | .leftParen => true
  | _ => false

/-- The tokens with which an atom begins. -/
def beginsAtom (token : Token) : Bool :=
  token.beginsReference || token.beginsParenthesized

/-- The tokens with which an expression begins. -/
def beginsExpression (token : Token) : Bool :=
  token.beginsAtom || token.beginsAbstraction

end Token

/-- The rules of the grammar that read a term. -/
inductive Rule where
  | expression
  | abstraction
  | application
  | operand
  | atom
  | reference
  | parenthesized
deriving DecidableEq, Repr

namespace Rule

/-- Whether a rule can begin with a token. -/
def canBegin : Rule → Token → Bool
  | .expression, token => token.beginsExpression
  | .abstraction, token => token.beginsAbstraction
  | .application, token => token.beginsAtom
  | .operand, token => token.beginsExpression
  | .atom, token => token.beginsAtom
  | .reference, token => token.beginsReference
  | .parenthesized, token => token.beginsParenthesized

/-- Read a term by a rule. -/
def read : Rule → Nat → Parser → Answer Term
  | .expression => Parser.expression
  | .abstraction => Parser.abstraction
  | .application => Parser.application
  | .operand => Parser.operand
  | .atom => Parser.atom
  | .reference => Parser.reference
  | .parenthesized => Parser.parenthesized

end Rule

end NumberedLambda
