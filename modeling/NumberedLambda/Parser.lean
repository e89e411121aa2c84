import NumberedLambda.Log
import NumberedLambda.ParseError
import NumberedLambda.ScopeTree

/-!
# The state of a parser

A parser reads the tokens of a scanner and resolves names in a tree of scopes.
It also keeps the log of what it has scanned and parsed, and remembers whether
the sequence of its terms has come to an end.

Every operation answers either with a value or with an error, and in both
cases with the parser as the operation left it: an error does not take the
parser back to where it was. What a rule uses up is measured by the `weight`
of its answer.
-/

namespace NumberedLambda

/-- A parser between two operations. -/
structure Parser where
  scanner : Scanner
  scopes : ScopeTree
  finished : Bool
  log : Log

/-- What an operation of a parser answers: a value or an error, and the
parser that it leaves. -/
abbrev Answer (Value : Type) : Type :=
  EStateM.Result ParseError Parser Value

namespace Parser

/-- The token that is to be dealt with next. -/
def lookahead (parser : Parser) : Token :=
  parser.scanner.lookahead

/-- An upper bound on the number of tokens that can still be read. -/
def remaining (parser : Parser) : Nat :=
  parser.scanner.remaining

/-- Give up the current token and read the next one. A token that is read is
logged; staying at the end of the text is not. -/
def advance (parser : Parser) : Answer Unit :=
  match parser.scanner.advance with
  | .ok () scanner =>
      .ok ()
        { parser with
          scanner := scanner
          log :=
            if parser.lookahead = .endOfFile then
              parser.log
            else
              parser.log.add (.scanned scanner.lookahead) }
  | .error error scanner =>
      .error (.lexical error) { parser with scanner := scanner }

/-- Open a scope inside `scope`. The answer holds its position in the tree
and the parser with it. -/
def openScope (parser : Parser) (scope : Nat) : Nat × Parser :=
  let opened := parser.scopes.openChild scope
  (opened.1, { parser with scopes := opened.2 })

/-- Declare a name in a scope. -/
def declare (parser : Parser) (scope : Nat) (name : String) :
    Identifier × Parser :=
  let declared := parser.scopes.declare scope name
  (declared.1, { parser with scopes := declared.2 })

@[simp]
theorem remaining_openScope (parser : Parser) (scope : Nat) :
    (parser.openScope scope).2.remaining = parser.remaining :=
  rfl

@[simp]
theorem lookahead_openScope (parser : Parser) (scope : Nat) :
    (parser.openScope scope).2.lookahead = parser.lookahead :=
  rfl

@[simp]
theorem remaining_declare (parser : Parser) (scope : Nat) (name : String) :
    (parser.declare scope name).2.remaining = parser.remaining :=
  rfl

@[simp]
theorem lookahead_declare (parser : Parser) (scope : Nat) (name : String) :
    (parser.declare scope name).2.lookahead = parser.lookahead :=
  rfl

end Parser

namespace Answer

/-- The parser that an operation leaves. -/
def parser {Value : Type} : Answer Value → Parser
  | .ok _ left => left
  | .error _ left => left

/-- What an answer leaves to be read, and one more if it holds a value. A
rule that has a weight of at most what remained before it has used up
something whenever it succeeds. -/
def weight {Value : Type} : Answer Value → Nat
  | .ok _ left => left.remaining + 1
  | .error _ left => left.remaining

/-- Use the value of an answer, and pass every error on. -/
def andThen {Value Result : Type} (answer : Answer Value)
    (next : Value → Parser → Answer Result) : Answer Result :=
  match answer with
  | .ok value left => next value left
  | .error error left => .error error left

/-- Try another rule if the first one does not apply at the current token. -/
def orElse {Value : Type} (answer : Answer Value)
    (next : Parser → Answer Value) : Answer Value :=
  match answer with
  | .error .notFound left => next left
  | other => other

/-- Demand that a rule applies: if it does not, the current token is the one
that was found instead. -/
def insist {Value : Type} (answer : Answer Value)
    (complaint : Token → ParseError) : Answer Value :=
  match answer with
  | .error .notFound left => .error (complaint left.lookahead) left
  | other => other

/-- Go on after a value, or stop with another answer where no value is
found. -/
def ifFound {Value Result : Type} (answer : Answer Value)
    (found : Value → Parser → Answer Result)
    (absent : Parser → Answer Result) : Answer Result :=
  match answer with
  | .ok value left => found value left
  | .error .notFound left => absent left
  | .error error left => .error error left

@[simp]
theorem andThen_ok {Value Result : Type} (value : Value) (left : Parser)
    (next : Value → Parser → Answer Result) :
    andThen (.ok value left) next = next value left :=
  rfl

@[simp]
theorem andThen_error {Value Result : Type} (error : ParseError)
    (left : Parser) (next : Value → Parser → Answer Result) :
    andThen (.error error left) next = .error error left :=
  rfl

@[simp]
theorem orElse_notFound {Value : Type} (left : Parser)
    (next : Parser → Answer Value) :
    orElse (.error .notFound left) next = next left :=
  rfl

@[simp]
theorem orElse_ok {Value : Type} (value : Value) (left : Parser)
    (next : Parser → Answer Value) :
    orElse (.ok value left) next = .ok value left :=
  rfl

@[simp]
theorem insist_notFound {Value : Type} (left : Parser)
    (complaint : Token → ParseError) :
    insist (.error .notFound left : Answer Value) complaint =
      .error (complaint left.lookahead) left :=
  rfl

@[simp]
theorem insist_ok {Value : Type} (value : Value) (left : Parser)
    (complaint : Token → ParseError) :
    insist (.ok value left) complaint = .ok value left :=
  rfl

@[simp]
theorem ifFound_ok {Value Result : Type} (value : Value) (left : Parser)
    (found : Value → Parser → Answer Result)
    (absent : Parser → Answer Result) :
    ifFound (.ok value left) found absent = found value left :=
  rfl

@[simp]
theorem ifFound_notFound {Value Result : Type} (left : Parser)
    (found : Value → Parser → Answer Result)
    (absent : Parser → Answer Result) :
    ifFound (.error .notFound left) found absent = absent left :=
  rfl

theorem ifFound_error {Value Result : Type} {error : ParseError}
    (different : error ≠ .notFound) (left : Parser)
    (found : Value → Parser → Answer Result)
    (absent : Parser → Answer Result) :
    ifFound (.error error left) found absent = .error error left := by
  cases error <;> first | rfl | exact absurd rfl different

theorem orElse_error {Value : Type} {error : ParseError}
    (different : error ≠ .notFound) (left : Parser)
    (next : Parser → Answer Value) :
    orElse (.error error left) next = .error error left := by
  cases error <;> first | rfl | exact absurd rfl different

theorem insist_error {Value : Type} {error : ParseError}
    (different : error ≠ .notFound) (left : Parser)
    (complaint : Token → ParseError) :
    insist (.error error left : Answer Value) complaint =
      .error error left := by
  cases error <;> first | rfl | exact absurd rfl different

/-- Insisting does not change what is left. -/
theorem weight_insist {Value : Type} (answer : Answer Value)
    (complaint : Token → ParseError) :
    weight (insist answer complaint) = weight answer := by
  cases answer with
  | ok value left =>
      rfl
  | error error left =>
      cases error <;> rfl

end Answer

namespace Parser

/-- Reading a token uses up what remains, unless the end of the text has been
reached before. -/
theorem weight_advance_le {parser : Parser}
    (unfinished : parser.lookahead ≠ .endOfFile) :
    Answer.weight parser.advance ≤ parser.remaining := by
  unfold advance
  cases read : parser.scanner.advance with
  | ok value scanner =>
      exact Scanner.remaining_lt_of_advance unfinished read
  | error error scanner =>
      exact Scanner.remaining_le_of_advance_error read

theorem remaining_lt_of_advance {parser after : Parser}
    (unfinished : parser.lookahead ≠ .endOfFile)
    (read : parser.advance = .ok () after) :
    after.remaining < parser.remaining := by
  have bound := weight_advance_le unfinished
  rw [read] at bound
  exact bound

theorem remaining_le_of_advance_error
    {parser left : Parser} {error : ParseError}
    (read : parser.advance = .error error left) :
    left.remaining ≤ parser.remaining := by
  unfold advance at read
  split at read
  · cases read
  · rename_i scanned
    cases read
    exact Scanner.remaining_le_of_advance_error scanned

/-- The only error of reading a token is a lexical one. -/
theorem advance_ne_notFound {parser left : Parser} :
    parser.advance ≠ .error .notFound left := by
  unfold advance
  split <;> simp

end Parser

end NumberedLambda
