import NumberedLambda.Term
import NumberedLambda.Token

/-!
# Sentences

The grammar of the source language, as a relation between tokens and trees
without numbers. An expression is an abstraction, or a sequence of atoms that
may end in an abstraction; an atom is an identifier or an expression in
parentheses. The names in a list of parameters are pairwise different.

Nothing is said here about how tokens are read. `Derives` tells which tree a
sequence of tokens stands for, and `Viable` which sequences can be continued
to a sentence.
-/

namespace NumberedLambda

/-- A term in which names stand for themselves, without numbers. -/
inductive Skeleton where
  | var (name : String)
  | app (operator operand : Skeleton)
  | lam (names : List String) (body : Skeleton)
deriving DecidableEq, Repr

/-- A term without its numbers. -/
def Term.skeleton : Term → Skeleton
  | .var identifier => .var identifier.name
  | .app operator operand => .app operator.skeleton operand.skeleton
  | .lam parameters body =>
      .lam (parameters.map Identifier.name) body.skeleton

namespace Grammar

/-- The kinds of phrases that the grammar distinguishes. -/
inductive Phrase where
  | expression
  | abstraction
  | atoms
  | atom
deriving DecidableEq, Repr

/-- A sequence of tokens is a phrase of some kind and stands for a tree.
Applications group to the left, a trailing abstraction is the last operand,
and parentheses leave no trace. -/
inductive Derives : Phrase → List Token → Skeleton → Prop where
  | name (name : String) :
      Derives .atom [.identifier name] (.var name)
  | parenthesized {tokens : List Token} {tree : Skeleton} :
      Derives .expression tokens tree →
        Derives .atom (.leftParen :: (tokens ++ [.rightParen])) tree
  | oneAtom {tokens : List Token} {tree : Skeleton} :
      Derives .atom tokens tree → Derives .atoms tokens tree
  | moreAtoms {first last : List Token} {operator operand : Skeleton} :
      Derives .atoms first operator → Derives .atom last operand →
        Derives .atoms (first ++ last) (.app operator operand)
  | abstraction {names : List String} {tokens : List Token}
      {body : Skeleton} :
      names ≠ [] → names.Nodup → Derives .expression tokens body →
        Derives .abstraction
          (.backslash :: (names.map Token.identifier ++ .dot :: tokens))
          (.lam names body)
  | bareAbstraction {tokens : List Token} {tree : Skeleton} :
      Derives .abstraction tokens tree → Derives .expression tokens tree
  | application {tokens : List Token} {tree : Skeleton} :
      Derives .atoms tokens tree → Derives .expression tokens tree
  | trailingAbstraction {first last : List Token}
      {operator operand : Skeleton} :
      Derives .atoms first operator → Derives .abstraction last operand →
        Derives .expression (first ++ last) (.app operator operand)

/-- A sentence is an expression. -/
def Sentence (tokens : List Token) (tree : Skeleton) : Prop :=
  Derives .expression tokens tree

/-- Tokens with which some sentence begins. -/
def Viable (tokens : List Token) : Prop :=
  ∃ later tree, Sentence (tokens ++ later) tree

/-- Every phrase has a token. -/
theorem ne_nil_of_derives {phrase : Phrase} {tokens : List Token}
    {tree : Skeleton} (derivation : Derives phrase tokens tree) :
    tokens ≠ [] := by
  induction derivation with
  | name name =>
      exact List.cons_ne_nil _ _
  | parenthesized inner inductionHypothesis =>
      exact List.cons_ne_nil _ _
  | oneAtom inner inductionHypothesis =>
      exact inductionHypothesis
  | moreAtoms first last firstHypothesis lastHypothesis =>
      exact List.append_ne_nil_of_left_ne_nil firstHypothesis _
  | abstraction someNames distinct inner inductionHypothesis =>
      exact List.cons_ne_nil _ _
  | bareAbstraction inner inductionHypothesis =>
      exact inductionHypothesis
  | application inner inductionHypothesis =>
      exact inductionHypothesis
  | trailingAbstraction first last firstHypothesis lastHypothesis =>
      exact List.append_ne_nil_of_left_ne_nil firstHypothesis _

end Grammar

end NumberedLambda
