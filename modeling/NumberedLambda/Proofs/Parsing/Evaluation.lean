import NumberedLambda.Proofs.Parsing.Decision

/-!
# The course of a rule

`Evaluates` relates a rule, called in a scope by a parser, to its answer, with
one constructor for each way that the rule can take. Which way it takes is
decided by the current token, so nothing in it is tried and given up.

Every rule does what `Evaluates` says of it (`evaluates`). This is shown once,
by the order in which the rules call each other; after that, what holds of
all answers is shown by induction on the way that led to them.
-/

namespace NumberedLambda

/-- What a parser can be set to read. The operands are read after the operator
that they are applied to. -/
inductive Task where
  | expression
  | abstraction
  | application
  | operands (operator : Term)
  | operand
  | atom
deriving DecidableEq, Repr

namespace Task

/-- The answer of a parser to a task, in a scope. -/
def answer : Task → Nat → Parser → Answer Term
  | .expression => Parser.expression
  | .abstraction => Parser.abstraction
  | .application => Parser.application
  | .operands operator => fun scope => Parser.operands scope operator
  | .operand => Parser.operand
  | .atom => Parser.atom

theorem answer_operands (operator : Term) (scope : Nat) (parser : Parser) :
    (operands operator).answer scope parser =
      parser.operands scope operator :=
  rfl

/-- The place of a task in the order in which tasks lead to each other while
no token is read. -/
def rank : Task → Nat
  | .expression => 5
  | .abstraction => 0
  | .application => 4
  | .operands _ => 3
  | .operand => 2
  | .atom => 1

end Task

/-- The ways in which a task is carried out. -/
inductive Evaluates : Task → Nat → Parser → Answer Term → Prop where
  | expressionAbstraction {scope : Nat} {parser : Parser}
      {answer : Answer Term} :
      parser.lookahead = .backslash →
      Evaluates .abstraction (parser.openScope scope).1
        (parser.openScope scope).2 answer →
      Evaluates .expression scope parser answer
  | expressionApplication {scope : Nat} {parser : Parser}
      {answer : Answer Term} :
      parser.lookahead ≠ .backslash →
      Evaluates .application (parser.openScope scope).1
        (parser.openScope scope).2 answer →
      Evaluates .expression scope parser answer
  | noAbstraction {scope : Nat} {parser : Parser} :
      parser.lookahead ≠ .backslash →
      Evaluates .abstraction scope parser (.error .notFound parser)
  | headerFails {scope : Nat} {parser left : Parser} {error : ParseError} :
      parser.lookahead = .backslash →
      parser.header scope = .error error left →
      Evaluates .abstraction scope parser (.error error left)
  | body {scope : Nat} {parser start : Parser}
      {declared : List Identifier} {answer : Answer Term} :
      parser.lookahead = .backslash →
      parser.header scope = .ok declared start →
      Evaluates .expression scope start answer →
      Evaluates .abstraction scope parser
        ((answer.insist .expectedBody).andThen fun body left =>
          .ok (.lam declared body) left)
  | operatorFails {scope : Nat} {parser left : Parser}
      {error : ParseError} :
      Evaluates .atom scope parser (.error error left) →
      Evaluates .application scope parser (.error error left)
  | operator {scope : Nat} {parser left : Parser} {operator : Term}
      {answer : Answer Term} :
      Evaluates .atom scope parser (.ok operator left) →
      Evaluates (.operands operator) scope left answer →
      Evaluates .application scope parser answer
  | noOperand {scope : Nat} {parser : Parser} {operator : Term} :
      parser.lookahead.beginsExpression = false →
      Evaluates (.operands operator) scope parser
        (.ok operator (parser.openScope scope).2)
  | operandFails {scope : Nat} {parser left : Parser}
      {operator : Term} {error : ParseError} :
      parser.lookahead.beginsExpression = true →
      Evaluates .operand scope parser (.error error left) →
      Evaluates (.operands operator) scope parser (.error error left)
  | moreOperands {scope : Nat} {parser left : Parser}
      {operator operand : Term} {answer : Answer Term} :
      parser.lookahead.beginsExpression = true →
      Evaluates .operand scope parser (.ok operand left) →
      Evaluates (.operands (.app operator operand)) scope left answer →
      Evaluates (.operands operator) scope parser answer
  | operandAtom {scope : Nat} {parser : Parser} {answer : Answer Term} :
      parser.lookahead.beginsAtom = true →
      Evaluates .atom scope parser answer →
      Evaluates .operand scope parser answer
  | operandAbstraction {scope : Nat} {parser : Parser}
      {answer : Answer Term} :
      parser.lookahead.beginsAtom = false →
      Evaluates .abstraction (parser.openScope scope).1
        (parser.openScope scope).2 answer →
      Evaluates .operand scope parser answer
  | noAtom {scope : Nat} {parser : Parser} :
      parser.lookahead.beginsAtom = false →
      Evaluates .atom scope parser (.error .notFound parser)
  | name {scope : Nat} {parser : Parser} {name : String} :
      parser.lookahead = .identifier name →
      Evaluates .atom scope parser
        (parser.advance.andThen fun () after =>
          .ok (.var (parser.scopes.identify scope name)) after)
  | openingFails {scope : Nat} {parser left : Parser}
      {error : ParseError} :
      parser.lookahead = .leftParen →
      parser.advance = .error error left →
      Evaluates .atom scope parser (.error error left)
  | parenthesized {scope : Nat} {parser start : Parser}
      {answer : Answer Term} :
      parser.lookahead = .leftParen →
      parser.advance = .ok () start →
      Evaluates .expression scope start answer →
      Evaluates .atom scope parser
        ((answer.insist .expectedParenthesized).andThen Parser.closing)

/-! ## Every task is carried out in one of these ways -/

/-- A parser carries out every task that comes before `task` in the order by
what remains to be read and by rank. -/
private def EvaluatesBefore (task : Task) (parser : Parser) : Prop :=
  ∀ (other : Task) (scope : Nat) (start : Parser),
    6 * start.remaining + other.rank < 6 * parser.remaining + task.rank →
      Evaluates other scope start (other.answer scope start)

private theorem measure_lt {task other : Task} {parser start : Parser}
    (shorter : start.remaining < parser.remaining) :
    6 * start.remaining + other.rank <
      6 * parser.remaining + task.rank := by
  have bound : other.rank ≤ 5 := by
    cases other <;> simp [Task.rank]
  omega

private theorem evaluates_expression
    {scope : Nat} {parser : Parser}
    (before : EvaluatesBefore .expression parser) :
    Evaluates .expression scope parser (parser.expression scope) := by
  by_cases opening : parser.lookahead = .backslash
  · rw [Parser.expression_of_backslash scope opening]
    exact .expressionAbstraction opening <|
      before .abstraction _ _ (by simp [Task.rank])
  · rw [Parser.expression_of_ne scope opening]
    exact .expressionApplication opening <|
      before .application _ _ (by simp [Task.rank])

private theorem evaluates_abstraction
    {scope : Nat} {parser : Parser}
    (before : EvaluatesBefore .abstraction parser) :
    Evaluates .abstraction scope parser (parser.abstraction scope) := by
  by_cases opening : parser.lookahead = .backslash
  · rw [Parser.abstraction_eq]
    have bound := Parser.weight_header_le scope parser
    cases list : parser.header scope with
    | error error left =>
        exact .headerFails opening list
    | ok declared start =>
        rw [list] at bound
        exact .body opening list <|
          before .expression scope start (measure_lt bound)
  · rw [Parser.abstraction_of_ne scope opening]
    exact .noAbstraction opening

private theorem evaluates_application
    {scope : Nat} {parser : Parser}
    (before : EvaluatesBefore .application parser) :
    Evaluates .application scope parser (parser.application scope) := by
  have bound := parser.weight_atom_le scope
  have evaluated : Evaluates .atom scope parser (parser.atom scope) :=
    before .atom scope parser (by simp [Task.rank])
  rw [Parser.application_eq]
  cases read : parser.atom scope with
  | error error left =>
      rw [read] at evaluated
      exact .operatorFails evaluated
  | ok operator left =>
      rw [read] at evaluated bound
      exact .operator evaluated <|
        before (.operands operator) scope left (measure_lt bound)

private theorem evaluates_operands
    {operator : Term} {scope : Nat} {parser : Parser}
    (before : EvaluatesBefore (.operands operator) parser) :
    Evaluates (.operands operator) scope parser
      (parser.operands scope operator) := by
  by_cases begins : parser.lookahead.beginsExpression = true
  · have bound := parser.weight_operand_le scope
    have applies := Parser.applies_operand scope begins
    have evaluated :
        Evaluates .operand scope parser (parser.operand scope) :=
      before .operand scope parser (by simp [Task.rank])
    rw [Parser.operands_eq]
    cases read : parser.operand scope with
    | error error left =>
        have different : error ≠ .notFound := by
          rintro rfl
          exact applies left read
        rw [read] at evaluated
        rw [Answer.ifFound_error different]
        exact .operandFails begins evaluated
    | ok operand left =>
        rw [read] at evaluated bound
        exact .moreOperands begins evaluated <|
          before (.operands (.app operator operand)) scope left
            (measure_lt bound)
  · have absent : parser.lookahead.beginsExpression = false :=
      Bool.eq_false_iff.mpr begins
    rw [Parser.operands_of_not scope operator absent]
    exact .noOperand absent

private theorem evaluates_operand
    {scope : Nat} {parser : Parser}
    (before : EvaluatesBefore .operand parser) :
    Evaluates .operand scope parser (parser.operand scope) := by
  by_cases begins : parser.lookahead.beginsAtom = true
  · rw [Parser.operand_of_beginsAtom scope begins]
    exact .operandAtom begins <|
      before .atom scope parser (by simp [Task.rank])
  · have absent : parser.lookahead.beginsAtom = false :=
      Bool.eq_false_iff.mpr begins
    rw [Parser.operand_of_not scope absent]
    exact .operandAbstraction absent <|
      before .abstraction _ _ (by simp [Task.rank])

private theorem evaluates_atom
    {scope : Nat} {parser : Parser}
    (before : EvaluatesBefore .atom parser) :
    Evaluates .atom scope parser (parser.atom scope) := by
  by_cases begins : parser.lookahead.beginsAtom = true
  · rcases Parser.cases_of_beginsAtom begins with ⟨name, atName⟩ | opening
    · rw [Parser.atom_of_identifier scope atName]
      exact .name atName
    · rw [Parser.atom_of_leftParen scope opening]
      cases read : parser.advance with
      | error error left =>
          exact .openingFails opening read
      | ok value start =>
          have shorter := Parser.remaining_lt_of_advance
            (Parser.unfinished_of_eq opening (by simp)) read
          exact .parenthesized opening read <|
            before .expression scope start (measure_lt shorter)
  · have absent : parser.lookahead.beginsAtom = false :=
      Bool.eq_false_iff.mpr begins
    rw [Parser.atom_of_not scope absent]
    exact .noAtom absent

/-- Every rule does what is said of it here. -/
theorem evaluates (task : Task) (scope : Nat) (parser : Parser) :
    Evaluates task scope parser (task.answer scope parser) := by
  -- The rules call each other without reading a token, so the induction is on
  -- what remains and on the rank of the rule together.
  generalize measured : 6 * parser.remaining + task.rank = measure
  induction measure using Nat.strongRecOn generalizing task scope parser with
  | ind measure inductionHypothesis =>
      have before : EvaluatesBefore task parser := by
        intro other otherScope start smaller
        exact inductionHypothesis _ (measured ▸ smaller) other otherScope
          start rfl
      cases task with
      | expression =>
          exact evaluates_expression before
      | abstraction =>
          exact evaluates_abstraction before
      | application =>
          exact evaluates_application before
      | operands operator =>
          exact evaluates_operands before
      | operand =>
          exact evaluates_operand before
      | atom =>
          exact evaluates_atom before

end NumberedLambda
