import NumberedLambda.Scanner

/-!
# Decompositions of a source text

A source text is divided into tokens with blanks in front of them. An
identifier takes as many characters as it can, which means that two
identifiers in a row have a blank between them. This module says what such a
division is, without saying how it is found.
-/

namespace NumberedLambda

open Character

/-- A token together with the blanks in front of it. -/
structure Lexeme where
  blanks : List Char
  token : Token
deriving DecidableEq, Repr

namespace Lexeme

/-- The characters of a lexeme. -/
def spelling (lexeme : Lexeme) : List Char :=
  lexeme.blanks ++ lexeme.token.spelling

end Lexeme

namespace Token

/-- Whether a token is an identifier. -/
def isIdentifier : Token → Bool
  | .identifier _ => true
  | _ => false

/-- A token that stands in a source text: one of the symbols, or an
identifier with at least one character, all of them allowed there. -/
def Written (token : Token) : Prop :=
  (∃ character, ofSymbol? character = some token) ∨
    ∃ text, token = .identifier text ∧ text.toList ≠ [] ∧
      ∀ character ∈ text.toList, isIdentifierCharacter character = true

end Token

/-- The source text consists of the lexemes and the rest after them. -/
structure Decomposition (source : List Char) (lexemes : List Lexeme)
    (rest : List Char) : Prop where
  source_eq : source = lexemes.flatMap Lexeme.spelling ++ rest
  blank : ∀ lexeme ∈ lexemes, ∀ character ∈ lexeme.blanks,
    isBlank character = true
  written : ∀ lexeme ∈ lexemes, lexeme.token.Written
  separated : ∀ first second, [first, second] <:+: lexemes →
    first.token.isIdentifier = true → second.token.isIdentifier = true →
      second.blanks ≠ []

namespace Decomposition

/-- The tokens of a decomposition end at the end of the text. -/
def Complete (rest : List Char) : Prop :=
  ∀ character ∈ rest, isBlank character = true

/-- The tokens of a decomposition end at a character that begins no token. -/
def StoppedBy (rest : List Char) (character : Char) : Prop :=
  ∃ blanks later, rest = blanks ++ character :: later ∧
    (∀ skipped ∈ blanks, isBlank skipped = true) ∧
    isBlank character = false ∧ isSymbol character = false ∧
    isIdentifierCharacter character = false

/-- Every text is its own rest, without any lexeme in front. -/
theorem nil (source : List Char) : Decomposition source [] source where
  source_eq := rfl
  blank := nofun
  written := nofun
  separated := by
    intro first second inNothing
    have tooLong := inNothing.length_le
    simp at tooLong

end Decomposition

end NumberedLambda
