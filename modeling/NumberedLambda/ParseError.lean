import NumberedLambda.Scanner

/-!
# Parse errors

The causes for which no term can be read. One of them, `notFound`, is only
used between grammar rules: it says that a rule does not apply at the current
token, so that another rule may be tried. Reading a whole term never ends with
it.
-/

namespace NumberedLambda

/-- Why a term could not be read. The causes that carry a token name the one
that was found in place of what is missing. -/
inductive ParseError where
  | notFound
  | missingParameter (found : Token)
  | duplicateParameter (name : String)
  | expectedDot (found : Token)
  | expectedBody (found : Token)
  | expectedParenthesized (found : Token)
  | expectedClosing (found : Token)
  | unexpectedToken (found : Token)
  | endOfInput
  | lexical (error : LexicalError)
deriving DecidableEq, Repr

namespace ParseError

/-- The wording of a parse error. -/
def message : ParseError → String
  | .notFound => "no expression starts at the current token"
  | .missingParameter found =>
      "expected at least one identifier after `\\`, found " ++
        found.description
  | .duplicateParameter name =>
      "identifier `" ++ name ++
        "` is declared twice in the same function def"
  | .expectedDot found =>
      "expected `.` after formal params, found " ++ found.description
  | .expectedBody found =>
      "expected an expression after `.`, found " ++ found.description
  | .expectedParenthesized found =>
      "expected an expression after `(`, found " ++ found.description
  | .expectedClosing found => "expected `)`, found " ++ found.description
  | .unexpectedToken found =>
      "unexpected token " ++ found.description ++
        " where an expression should start"
  | .endOfInput => "end of input"
  | .lexical error => "fatal tokenizer error: " ++ error.message

/-- Whether no further token can be read after the error. -/
def isFatal : ParseError → Bool
  | .lexical _ => true
  | _ => false

/-- Whether the error says that the tokens break the grammar. -/
def isSyntaxError : ParseError → Bool
  | .notFound => false
  | .endOfInput => false
  | .lexical _ => false
  | _ => true

end ParseError

end NumberedLambda
