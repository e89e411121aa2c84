/-!
# Tokens

The words of the source language. Lines matter, so the end of a line is a
token; only identifiers carry text.
-/

namespace NumberedLambda

/-- A token, or one of the two marks that stand before the first token and
after the last one. -/
inductive Token where
  | startOfFile
  | endOfFile
  | newLine
  | backslash
  | dot
  | leftParen
  | rightParen
  | identifier (text : String)
deriving DecidableEq, Repr

namespace Token

/-- The name of a token in messages and in the log. -/
def description : Token → String
  | .startOfFile => "StartOfFile"
  | .endOfFile => "EndOfFile"
  | .newLine => "NewLine"
  | .backslash => "Backslash"
  | .dot => "Dot"
  | .leftParen => "LeftParen"
  | .rightParen => "RightParen"
  | .identifier text => "Identifier(" ++ text ++ ")"

/-- The token that a single character makes, if it is a symbol. -/
def ofSymbol? : Char → Option Token
  | '\n' => some .newLine
  | '\\' => some .backslash
  | '.' => some .dot
  | '(' => some .leftParen
  | ')' => some .rightParen
  | _ => none

/-- The characters that a token is written with. The two marks are not
written. -/
def spelling : Token → List Char
  | .startOfFile => []
  | .endOfFile => []
  | .newLine => ['\n']
  | .backslash => ['\\']
  | .dot => ['.']
  | .leftParen => ['(']
  | .rightParen => [')']
  | .identifier text => text.toList

/-- A symbol is the whole spelling of its token. -/
theorem spelling_of_ofSymbol? {character : Char} {token : Token}
    (symbol : ofSymbol? character = some token) :
    token.spelling = [character] := by
  unfold ofSymbol? at symbol
  split at symbol <;> cases symbol <;> rfl

end Token

end NumberedLambda
