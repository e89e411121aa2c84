import NumberedLambda.Identifier

/-!
# Terms

The terms of the untyped lambda calculus, with abstractions over a list of
parameters, and their written form. The written form uses parentheses only
where leaving them out would change the reading: application groups to the
left, and an abstraction extends as far to the right as it can.
-/

namespace NumberedLambda

/-- A variable, the application of an operator to an operand, or an
abstraction of its parameters, the first of which is the outermost. Nothing
is assumed of the parameters: the list may be empty or repeat an
identifier. -/
inductive Term where
  | var (identifier : Identifier)
  | app (operator operand : Term)
  | lam (parameters : List Identifier) (body : Term)
deriving DecidableEq, Repr

namespace Term

/-- Whether the term is a variable. -/
def isVar : Term → Bool
  | .var _ => true
  | _ => false

/-- Whether the term is an abstraction. -/
def isLam : Term → Bool
  | .lam _ _ => true
  | _ => false

/-- A text, put in parentheses if the condition holds. -/
def parenthesizedIf (condition : Bool) (text : String) : String :=
  if condition then "(" ++ text ++ ")" else text

/-- The written form of a parameter list. -/
def renderParameters (parameters : List Identifier) : String :=
  " ".intercalate (parameters.map Identifier.render)

/-- The written form of a term. An abstraction in operator position would
take the operand into its body, so it stands in parentheses; so does every
operand that is not a variable. -/
def render : Term → String
  | .var identifier => identifier.render
  | .app operator operand =>
      parenthesizedIf operator.isLam operator.render ++ " " ++
        parenthesizedIf (!operand.isVar) operand.render
  | .lam parameters body =>
      "\\" ++ renderParameters parameters ++ ". " ++ body.render

/-- The number of variables, applications and abstractions in a term. -/
def size : Term → Nat
  | .var _ => 1
  | .app operator operand => operator.size + operand.size + 1
  | .lam _ body => body.size + 1

/-- The identifiers that occur in a term other than as parameters, without
those that an enclosing abstraction binds. -/
def free : Term → List Identifier
  | .var identifier => [identifier]
  | .app operator operand => operator.free ++ operand.free
  | .lam parameters body =>
      body.free.filter fun identifier => !parameters.contains identifier

theorem size_pos (term : Term) : 0 < term.size := by
  cases term <;> simp [size]

@[simp]
theorem mem_free_var {identifier occurring : Identifier} :
    identifier ∈ (var occurring).free ↔ identifier = occurring := by
  simp [free]

@[simp]
theorem mem_free_app {identifier : Identifier} {operator operand : Term} :
    identifier ∈ (app operator operand).free ↔
      identifier ∈ operator.free ∨ identifier ∈ operand.free := by
  simp [free]

@[simp]
theorem mem_free_lam
    {identifier : Identifier} {parameters : List Identifier}
    {body : Term} :
    identifier ∈ (lam parameters body).free ↔
      identifier ∈ body.free ∧ identifier ∉ parameters := by
  simp [free]

end Term

end NumberedLambda
