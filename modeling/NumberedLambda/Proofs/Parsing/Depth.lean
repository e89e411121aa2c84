import NumberedLambda.Proofs.Parsing.Acceptance

/-!
# How deep the rules are nested

The rules are written here once more as they call each other, with a limit in
place of the bounds that they carry along: every call of a rule and every turn
of a loop is one level below the place from which it is made, and where no
level is left there is no answer at all.

A limit that exceeds a multiple of what remains to be read is never reached
(`parseWithin_eq`). A call that reads no token first leads to a rule of lower
rank, so on the way from one token to the next there are no more levels than
there are ranks. Hence reading a term ends, whatever the text is, and the rules
give the answers that they give here.
-/

namespace NumberedLambda

/-! ## Answers within a limit -/

/-- The answer of an operation that may run out of levels before it has one. -/
abbrev LimitedAnswer (Value : Type) : Type :=
  Option (Answer Value)

namespace LimitedAnswer

variable {Value Result : Type}

/-- Use the value of an answer, and pass every error on. -/
def andThen (first : LimitedAnswer Value)
    (next : Value → Parser → LimitedAnswer Result) : LimitedAnswer Result :=
  match first with
  | none => none
  | some (.ok value left) => next value left
  | some (.error error left) => some (.error error left)

/-- Try another rule if the first one does not apply. -/
def orElse (first : LimitedAnswer Value)
    (next : Parser → LimitedAnswer Value) : LimitedAnswer Value :=
  match first with
  | some (.error .notFound left) => next left
  | other => other

/-- Demand that a rule applies. -/
def insist (first : LimitedAnswer Value)
    (complaint : Token → ParseError) : LimitedAnswer Value :=
  first.map fun answer => answer.insist complaint

/-- Go on after a value, or stop with another answer where no value is
found. -/
def ifFound (first : LimitedAnswer Value)
    (found : Value → Parser → LimitedAnswer Result)
    (absent : Parser → LimitedAnswer Result) : LimitedAnswer Result :=
  match first with
  | none => none
  | some (.ok value left) => found value left
  | some (.error .notFound left) => absent left
  | some (.error error left) => some (.error error left)

variable {answer : Answer Value}

theorem andThen_some {next : Value → Parser → LimitedAnswer Result}
    {plain : Value → Parser → Answer Result}
    (agree : ∀ value left, answer = .ok value left →
      next value left = some (plain value left)) :
    andThen (some answer) next = some (answer.andThen plain) := by
  cases answer with
  | ok value left =>
      exact agree value left rfl
  | error error left =>
      rfl

theorem orElse_some {next : Parser → LimitedAnswer Value}
    {plain : Parser → Answer Value}
    (agree : ∀ left, answer = .error .notFound left →
      next left = some (plain left)) :
    orElse (some answer) next = some (answer.orElse plain) := by
  cases answer with
  | ok value left =>
      rfl
  | error error left =>
      cases error with
      | notFound =>
          exact agree left rfl
      | _ =>
          rfl

theorem ifFound_some {found : Value → Parser → LimitedAnswer Result}
    {absent : Parser → LimitedAnswer Result}
    {plainFound : Value → Parser → Answer Result}
    {plainAbsent : Parser → Answer Result}
    (agreeFound : ∀ value left, answer = .ok value left →
      found value left = some (plainFound value left))
    (agreeAbsent : ∀ left, answer = .error .notFound left →
      absent left = some (plainAbsent left)) :
    ifFound (some answer) found absent =
      some (answer.ifFound plainFound plainAbsent) := by
  cases answer with
  | ok value left =>
      exact agreeFound value left rfl
  | error error left =>
      cases error with
      | notFound =>
          exact agreeAbsent left rfl
      | _ =>
          rfl

end LimitedAnswer

/-! ## The rules within a limit -/

namespace Parser

/-- The rest of a parameter list, with a limit on the number of its turns. -/
def parametersWithin :
    Nat → Nat → List Identifier → Parser → LimitedAnswer (List Identifier)
  | 0, _, _, _ => none
  | depth + 1, scope, declared, parser =>
      match parser.lookahead with
      | .identifier name =>
          if declared.any fun parameter => parameter.name = name then
            some (.error (.duplicateParameter name) parser)
          else
            let declaration := parser.declare scope name
            LimitedAnswer.andThen (some declaration.2.advance)
              fun () after =>
                parametersWithin depth scope (declared ++ [declaration.1])
                  after
      | _ => some (.ok declared parser)

/-- The part of an abstraction in front of its body. -/
def headerWithin (depth scope : Nat) (parser : Parser) :
    LimitedAnswer (List Identifier) :=
  if parser.lookahead = .backslash then
    LimitedAnswer.andThen (some parser.advance) fun () after =>
      (parametersWithin depth scope [] after).andThen
        fun declared ready => some (ready.dotAfter declared)
  else
    some (.error .notFound parser)

/-- An expression in parentheses, given how the expression itself is read. -/
def parenthesizedBy (inside : Nat → Parser → LimitedAnswer Term)
    (scope : Nat) (parser : Parser) : LimitedAnswer Term :=
  if parser.lookahead = .leftParen then
    LimitedAnswer.andThen (some parser.advance) fun () start =>
      ((inside scope start).insist .expectedParenthesized).andThen
        fun inner left => some (left.closing inner)
  else
    some (.error .notFound parser)

end Parser

/-- The answer of a parser to a task, in a scope, with a limit on the depth to
which the rules may call each other. -/
def Task.answerWithin : Nat → Task → Nat → Parser → LimitedAnswer Term
  | 0, _, _, _ => none
  | depth + 1, .expression, scope, parser =>
      let opened := parser.openScope scope
      (answerWithin depth .abstraction opened.1 opened.2).orElse
        (answerWithin depth .application opened.1)
  | depth + 1, .abstraction, scope, parser =>
      (Parser.headerWithin depth scope parser).andThen
        fun declared start =>
          ((answerWithin depth .expression scope start).insist
            .expectedBody).andThen
              fun body left => some (.ok (.lam declared body) left)
  | depth + 1, .application, scope, parser =>
      (answerWithin depth .atom scope parser).andThen
        fun operator => answerWithin depth (.operands operator) scope
  | depth + 1, .operands operator, scope, parser =>
      (answerWithin depth .operand scope parser).ifFound
        (fun operand =>
          answerWithin depth (.operands (.app operator operand)) scope)
        (fun left => some (.ok operator left))
  | depth + 1, .operand, scope, parser =>
      (answerWithin depth .atom scope parser).orElse fun left =>
        let opened := left.openScope scope
        answerWithin depth .abstraction opened.1 opened.2
  | depth + 1, .atom, scope, parser =>
      LimitedAnswer.orElse (some (parser.reference scope))
        (Parser.parenthesizedBy (answerWithin depth .expression) scope)

namespace Parser

/-- Skip the ends of empty lines, with a limit on their number. -/
def skipNewLinesWithin : Nat → Parser → LimitedAnswer Unit
  | 0, _ => none
  | depth + 1, parser =>
      if parser.lookahead = .newLine then
        LimitedAnswer.andThen (some parser.advance) fun () after =>
          skipNewLinesWithin depth after
      else
        some (.ok () parser)

/-- The term that begins at the current token, within a limit. -/
def termWithin (depth : Nat) (parser : Parser) : LimitedAnswer Term :=
  ((Task.expression.answerWithin depth 0
      { parser with scopes := .root }).insist .unexpectedToken).andThen
    fun term left =>
      some (.ok term { left with log := left.log.add (.parsed term) })

/-- Read the next term within a limit. -/
def parseWithin (depth : Nat) (parser : Parser) : LimitedAnswer Term :=
  (skipNewLinesWithin depth parser).andThen fun () ready =>
    if ready.lookahead = .endOfFile then
      some (.error .endOfInput ready)
    else
      ready.termWithin depth

/-! ## Limits that are not reached -/

variable {depth scope : Nat} {parser : Parser}

theorem parametersWithin_eq {declared : List Identifier}
    (enough : parser.remaining < depth) :
    parser.parametersWithin depth scope declared =
      some (parser.parameters scope declared) := by
  induction depth generalizing declared parser with
  | zero =>
      exact absurd enough (Nat.not_lt_zero _)
  | succ depth inductionHypothesis =>
      rw [parametersWithin]
      split
      · rename_i name atName
        split
        · rename_i found
          have duplicate : name ∈ declared.map Identifier.name :=
            Decidable.not_not.mp fun fresh => not_any_name_iff.mpr fresh found
          rw [parameters_of_duplicate scope atName duplicate]
        · rename_i fresh
          rw [parameters_of_name scope atName (not_any_name_iff.mp fresh)]
          refine LimitedAnswer.andThen_some fun _ after read => ?_
          have unfinished :
              (parser.declare scope name).2.lookahead ≠ .endOfFile :=
            unfinished_of_eq atName Token.noConfusion
          have shorter := remaining_lt_of_advance unfinished read
          rw [remaining_declare] at shorter
          exact inductionHypothesis (by omega)
      · rename_i others
        rw [parameters_of_end scope declared others]

theorem headerWithin_eq (enough : parser.remaining ≤ depth) :
    parser.headerWithin depth scope = some (parser.header scope) := by
  unfold headerWithin header
  split
  · rename_i opening
    refine LimitedAnswer.andThen_some fun _ after read => ?_
    have shorter := remaining_lt_of_advance
      (unfinished_of_eq opening Token.noConfusion) read
    rw [parametersWithin_eq (Nat.lt_of_lt_of_le shorter enough)]
    exact LimitedAnswer.andThen_some fun _ _ _ => rfl
  · rfl

end Parser

namespace Task

variable {depth scope : Nat} {parser : Parser}

/-- A limit is not reached by the tasks that come before it in the order by
what remains to be read and by rank. -/
private def AnsweredWithin (depth : Nat) : Prop :=
  ∀ (task : Task) (scope : Nat) (parser : Parser),
    6 * parser.remaining + task.rank < depth →
      task.answerWithin depth scope parser = some (task.answer scope parser)

private theorem answerWithin_expression (answered : AnsweredWithin depth)
    (enough : 6 * parser.remaining + 5 < depth + 1) :
    expression.answerWithin (depth + 1) scope parser =
      some (parser.expression scope) := by
  have sameRemaining := parser.remaining_openScope scope
  rw [answerWithin, answered .abstraction _ _ (by simp only [rank]; omega),
    Parser.expression_eq]
  refine LimitedAnswer.orElse_some fun left absent => ?_
  have bound :=
    (Parser.boundedAbstraction _ _).remaining_le_of_error absent
  exact answered .application _ left (by simp only [rank]; omega)

private theorem answerWithin_abstraction (answered : AnsweredWithin depth)
    (enough : 6 * parser.remaining < depth + 1) :
    abstraction.answerWithin (depth + 1) scope parser =
      some (parser.abstraction scope) := by
  rw [answerWithin, Parser.headerWithin_eq (by omega), Parser.abstraction_eq]
  refine LimitedAnswer.andThen_some fun declared start list => ?_
  have shorter := (Parser.boundedHeader _ _).remaining_lt_of_ok list
  rw [answered .expression scope start (by simp only [rank]; omega)]
  exact LimitedAnswer.andThen_some fun _ _ _ => rfl

private theorem answerWithin_application (answered : AnsweredWithin depth)
    (enough : 6 * parser.remaining + 4 < depth + 1) :
    application.answerWithin (depth + 1) scope parser =
      some (parser.application scope) := by
  rw [answerWithin, answered .atom scope parser (by simp only [rank]; omega),
    Parser.application_eq]
  refine LimitedAnswer.andThen_some fun operator left read => ?_
  have shorter := (Parser.boundedAtom _ _).remaining_lt_of_ok read
  exact answered (.operands operator) scope left
    (by simp only [rank]; omega)

private theorem answerWithin_operands {operator : Term}
    (answered : AnsweredWithin depth)
    (enough : 6 * parser.remaining + 3 < depth + 1) :
    (operands operator).answerWithin (depth + 1) scope parser =
      some (parser.operands scope operator) := by
  rw [answerWithin,
    answered .operand scope parser (by simp only [rank]; omega),
    Parser.operands_eq]
  refine LimitedAnswer.ifFound_some (fun operand left read => ?_)
    fun _ _ => rfl
  have shorter := (Parser.boundedOperand _ _).remaining_lt_of_ok read
  exact answered (.operands (.app operator operand)) scope left
    (by simp only [rank]; omega)

private theorem answerWithin_operand (answered : AnsweredWithin depth)
    (enough : 6 * parser.remaining + 2 < depth + 1) :
    operand.answerWithin (depth + 1) scope parser =
      some (parser.operand scope) := by
  rw [answerWithin, answered .atom scope parser (by simp only [rank]; omega),
    Parser.operand_eq]
  refine LimitedAnswer.orElse_some fun left absent => ?_
  have bound := (Parser.boundedAtom _ _).remaining_le_of_error absent
  have sameRemaining := left.remaining_openScope scope
  exact answered .abstraction _ _ (by simp only [rank]; omega)

private theorem answerWithin_atom (answered : AnsweredWithin depth)
    (enough : 6 * parser.remaining + 1 < depth + 1) :
    atom.answerWithin (depth + 1) scope parser =
      some (parser.atom scope) := by
  rw [answerWithin, Parser.atom_eq]
  refine LimitedAnswer.orElse_some fun left absent => ?_
  have bound := (Parser.boundedReference _ _).remaining_le_of_error absent
  rw [Parser.parenthesizedBy, Parser.parenthesized_eq]
  split
  · rename_i opening
    refine LimitedAnswer.andThen_some fun _ start read => ?_
    have shorter := Parser.remaining_lt_of_advance
      (Parser.unfinished_of_eq opening Token.noConfusion) read
    rw [answered .expression scope start (by simp only [rank]; omega)]
    exact LimitedAnswer.andThen_some fun _ _ _ => rfl
  · rfl

/-- Within a limit that exceeds the measure of a task, the task is answered as
it is without a limit. -/
theorem answerWithin_eq (task : Task) (scope : Nat) (parser : Parser)
    (enough : 6 * parser.remaining + task.rank < depth) :
    task.answerWithin depth scope parser =
      some (task.answer scope parser) := by
  induction depth generalizing task scope parser with
  | zero =>
      exact absurd enough (Nat.not_lt_zero _)
  | succ depth inductionHypothesis =>
      cases task with
      | expression =>
          exact answerWithin_expression inductionHypothesis enough
      | abstraction =>
          exact answerWithin_abstraction inductionHypothesis enough
      | application =>
          exact answerWithin_application inductionHypothesis enough
      | operands operator =>
          exact answerWithin_operands inductionHypothesis enough
      | operand =>
          exact answerWithin_operand inductionHypothesis enough
      | atom =>
          exact answerWithin_atom inductionHypothesis enough

end Task

namespace Parser

variable {depth : Nat} {parser : Parser}

theorem skipNewLinesWithin_eq (enough : parser.remaining < depth) :
    parser.skipNewLinesWithin depth = some parser.skipNewLines := by
  induction depth generalizing parser with
  | zero =>
      exact absurd enough (Nat.not_lt_zero _)
  | succ depth inductionHypothesis =>
      rw [skipNewLinesWithin]
      split
      · rename_i atNewLine
        rw [skipNewLines_of_newLine atNewLine]
        refine LimitedAnswer.andThen_some fun _ after read => ?_
        have shorter := remaining_lt_of_advance
          (unfinished_of_eq atNewLine Token.noConfusion) read
        exact inductionHypothesis (by omega)
      · rename_i otherToken
        rw [skipNewLines_of_ne otherToken]

theorem termWithin_eq (enough : 6 * parser.remaining + 5 < depth) :
    parser.termWithin depth = some parser.term := by
  let begun : Parser := { parser with scopes := .root }
  have enoughBegun : 6 * begun.remaining + Task.expression.rank < depth :=
    enough
  rw [termWithin, Task.answerWithin_eq .expression 0 begun enoughBegun]
  exact LimitedAnswer.andThen_some fun _ _ _ => rfl

/-- Within a limit that exceeds a multiple of what remains to be read, a term
is read as it is without a limit. -/
theorem parseWithin_eq (enough : 6 * parser.remaining + 5 < depth) :
    parser.parseWithin depth = some parser.parse := by
  have skipBound := parser.weight_skipNewLines_le
  rw [parseWithin, skipNewLinesWithin_eq (by omega)]
  refine LimitedAnswer.andThen_some fun _ ready skipped => ?_
  rw [skipped] at skipBound
  have started : ready.remaining ≤ parser.remaining :=
    Nat.le_of_succ_le_succ skipBound
  split
  · rfl
  · exact termWithin_eq (by omega)

end Parser

end NumberedLambda
