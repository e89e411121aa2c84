/-!
# Identifiers

An identifier is a name together with a number. The number tells apart the
binders of one name that are in force at the same place; a name that nothing
binds has number zero.
-/

namespace NumberedLambda

/-- A name and its number. -/
structure Identifier where
  name : String
  number : Nat
deriving DecidableEq, Repr

/-- The decimal digits of a number. -/
def decimal (number : Nat) : String :=
  String.ofList (Nat.toDigits 10 number)

namespace Identifier

/-- The written form of an identifier joins its name and its number by an
underscore. -/
def render (identifier : Identifier) : String :=
  identifier.name ++ "_" ++ decimal identifier.number

end Identifier

end NumberedLambda
