import NumberedLambda.Parser.Sequence

/-!
# Numerals as source texts

A natural number is written as the abstraction that applies its first
parameter that many times to its second one. Addition of such numerals is an
abstraction as well, and the text of a sum is the text of addition followed by
the texts of the two numbers.
-/

namespace NumberedLambda

namespace Church

/-- The parameter applied `count` times, as an operand: in parentheses unless
nothing is applied. -/
def operandText : Nat → String
  | 0 => "x"
  | count + 1 => "(f " ++ operandText count ++ ")"

/-- The parameter applied `count` times. -/
def bodyText : Nat → String
  | 0 => "x"
  | count + 1 => "f " ++ operandText count

/-- The text of a number. -/
def numeralText (number : Nat) : String :=
  "(\\f x. " ++ bodyText number ++ ")"

/-- The text of addition. -/
def additionText : String :=
  "(\\m n f x. m f (n f x))"

/-- The text of the sum of two numbers, which is yet to be evaluated. -/
def sumText (first second : Nat) : String :=
  additionText ++ " " ++ numeralText first ++ " " ++ numeralText second

end Church

end NumberedLambda
