import NumberedLambda.Parser.Sequence
import NumberedLambda.Proofs.Parsing.Scoping

/-!
# What the rules keep

A rule changes a parser in two ways only: it reads tokens, and it works on the
tree of scopes. So a property of parsers that a token read keeps, and that does
not depend on the scopes, is kept by every rule, whatever way it takes and
whether it succeeds or fails.
-/

namespace NumberedLambda

namespace Parser

/-- A property of parsers that reading a token keeps and that does not depend
on the scopes. -/
structure KeptByReading (holds : Parser → Prop) : Prop where
  advance : ∀ {parser}, holds parser → holds parser.advance.parser
  scopes : ∀ {parser} (scopes : ScopeTree), holds parser →
    holds { parser with scopes := scopes }

end Parser

/-- Answers that go on from one another keep a property if each of them
does. -/
theorem Answer.kept_andThen {Value Result : Type} {holds : Parser → Prop}
    {answer : Answer Value} {next : Value → Parser → Answer Result}
    (first : holds answer.parser)
    (later : ∀ value left, holds left → holds (next value left).parser) :
    holds (answer.andThen next).parser := by
  cases answer with
  | ok value left =>
      exact later value left first
  | error error left =>
      exact first

namespace Parser

namespace KeptByReading

variable {holds : Parser → Prop} {parser : Parser}

theorem advance_eq (kept : KeptByReading holds) {answer : Answer Unit}
    (read : parser.advance = answer) (start : holds parser) :
    holds answer.parser := by
  subst read
  exact kept.advance start

theorem advance_andThen_ok (kept : KeptByReading holds) {Value : Type}
    (value : Value) (start : holds parser) :
    holds (parser.advance.andThen fun _ after => .ok value after).parser :=
  Answer.kept_andThen (kept.advance start) fun _ _ => id

theorem closing (kept : KeptByReading holds) (inner : Term)
    (start : holds parser) : holds (parser.closing inner).parser := by
  unfold Parser.closing
  split
  · exact kept.advance_andThen_ok inner start
  · exact start

theorem dotAfter (kept : KeptByReading holds) (declared : List Identifier)
    (start : holds parser) : holds (parser.dotAfter declared).parser := by
  unfold Parser.dotAfter
  split
  · exact start
  · split
    · exact kept.advance_andThen_ok declared start
    · exact start

theorem parameters (kept : KeptByReading holds) (scope : Nat)
    (declared : List Identifier) (start : holds parser) :
    holds (parser.parameters scope declared).parser := by
  fun_induction Parser.parameters scope declared parser with
  | case1 declared parser name atName duplicate =>
      exact start
  | case2 declared parser name atName fresh after read
      inductionHypothesis =>
      apply inductionHypothesis
      exact kept.advance_eq read (kept.scopes _ start)
  | case3 declared parser name atName fresh error left read =>
      exact kept.advance_eq read (kept.scopes _ start)
  | case4 declared parser others =>
      exact start

theorem header (kept : KeptByReading holds) (scope : Nat)
    (start : holds parser) : holds (parser.header scope).parser := by
  unfold Parser.header
  split
  · apply Answer.kept_andThen (kept.advance start)
    intro _ after afterHolds
    apply Answer.kept_andThen (kept.parameters scope [] afterHolds)
    intro declared left leftHolds
    exact kept.dotAfter declared leftHolds
  · exact start

theorem evaluates (kept : KeptByReading holds) {task : Task} {scope : Nat}
    {answer : Answer Term} (evaluated : Evaluates task scope parser answer)
    (start : holds parser) : holds answer.parser := by
  induction evaluated with
  | expressionAbstraction _ _ inductionHypothesis
  | expressionApplication _ _ inductionHypothesis
  | operandAbstraction _ _ inductionHypothesis =>
      exact inductionHypothesis (kept.scopes _ start)
  | operatorFails _ inductionHypothesis
  | operandFails _ _ inductionHypothesis
  | operandAtom _ _ inductionHypothesis =>
      exact inductionHypothesis start
  | noAbstraction | noAtom =>
      exact start
  | noOperand =>
      exact kept.scopes _ start
  | @headerFails scope parser left error opening header =>
      have left := kept.header scope start
      rw [header] at left
      exact left
  | @body scope parser inside declared answer opening header evaluated
      inductionHypothesis =>
      have insideHolds := kept.header scope start
      rw [header] at insideHolds
      apply Answer.kept_andThen
      · rw [Answer.parser_insist]
        exact inductionHypothesis insideHolds
      · exact fun _ _ => id
  | operator _ _ firstHypothesis laterHypothesis
  | moreOperands _ _ _ firstHypothesis laterHypothesis =>
      exact laterHypothesis (firstHypothesis start)
  | name atName =>
      exact kept.advance_andThen_ok _ start
  | openingFails opening read =>
      exact kept.advance_eq read start
  | parenthesized opening read evaluated inductionHypothesis =>
      apply Answer.kept_andThen
      · rw [Answer.parser_insist]
        exact inductionHypothesis (kept.advance_eq read start)
      · intro inner left leftHolds
        exact kept.closing inner leftHolds

theorem skipNewLines (kept : KeptByReading holds) (start : holds parser) :
    holds parser.skipNewLines.parser := by
  fun_induction Parser.skipNewLines parser with
  | case1 parser atNewLine after read inductionHypothesis =>
      exact inductionHypothesis (kept.advance_eq read start)
  | case2 parser atNewLine error left read =>
      exact kept.advance_eq read start
  | case3 parser otherToken =>
      exact start

/-- When a term is read, the only other change is that the log records it. -/
theorem parse_cases (kept : KeptByReading holds) (start : holds parser) :
    (∃ error left, parser.parse = .error error left ∧ holds left) ∨
    ∃ term left,
      parser.parse =
        .ok term { left with log := left.log.add (.parsed term) } ∧
      holds left := by
  have skippedHolds := kept.skipNewLines start
  unfold Parser.parse
  cases skipped : parser.skipNewLines with
  | error error left =>
      rw [skipped] at skippedHolds
      exact Or.inl ⟨error, left, rfl, skippedHolds⟩
  | ok value ready =>
      rw [skipped] at skippedHolds
      rw [Answer.andThen_ok]
      split
      · exact Or.inl ⟨.endOfInput, ready, rfl, skippedHolds⟩
      · have answerHolds :
            holds ((expression 0 { ready with scopes := .root }).insist
              .unexpectedToken).parser := by
          rw [Answer.parser_insist]
          exact kept.evaluates (NumberedLambda.evaluates .expression 0 _)
            (kept.scopes .root skippedHolds)
        unfold Parser.term
        cases answer : (expression 0 { ready with scopes := .root }).insist
            .unexpectedToken with
        | error error left =>
            rw [answer] at answerHolds
            exact Or.inl ⟨error, left, rfl, answerHolds⟩
        | ok term left =>
            rw [answer] at answerHolds
            exact Or.inr ⟨term, left, rfl, answerHolds⟩

theorem parse (kept : KeptByReading holds)
    (recorded : ∀ {parser} (term : Term), holds parser →
      holds { parser with log := parser.log.add (.parsed term) })
    (start : holds parser) : holds parser.parse.parser := by
  rcases kept.parse_cases start with
    ⟨error, left, parsed, leftHolds⟩ | ⟨term, left, parsed, leftHolds⟩
  · rw [parsed]
    exact leftHolds
  · rw [parsed]
    exact recorded term leftHolds

end KeptByReading

end Parser

end NumberedLambda
