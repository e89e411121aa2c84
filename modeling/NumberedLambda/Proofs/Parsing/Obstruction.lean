import Mathlib
import NumberedLambda.Parser.Calls
import NumberedLambda.Proofs.Parsing.Iteration
import NumberedLambda.Proofs.Parsing.Stopping
import NumberedLambda.Proofs.Scanning.Obstruction

/-!
# Lexical errors are final

A rule answers with a lexical error only where its scanner is obstructed, and
an obstructed scanner never moves again. So the parser keeps its lookahead, and
what a further attempt to read a term answers is decided by it: where the rules
go on behind this token they meet the same error, and where no term begins with
it they complain about it, one way or the other always with the same answer.
-/

namespace NumberedLambda

/-! ## Lexical errors come from obstructed scanners -/

namespace Answer

variable {Value Result : Type}

/-- Where the answer is a lexical error, it obstructs the scanner that is
left. -/
def LeavesObstructed (answer : Answer Value) : Prop :=
  ∀ error left, answer = .error (.lexical error) left →
    left.scanner.Obstructed error

theorem leavesObstructed_ok (value : Value) (left : Parser) :
    LeavesObstructed (.ok value left) :=
  nofun

theorem leavesObstructed_error {error : ParseError}
    (recoverable : error.isFatal = false) (left : Parser) :
    LeavesObstructed (.error error left : Answer Value) := by
  intro lexical other equality
  cases equality
  cases recoverable

/-- What kind of value has not been found does not matter. -/
theorem LeavesObstructed.of_error {error : ParseError} {left : Parser}
    (own : LeavesObstructed (.error error left : Answer Value)) :
    LeavesObstructed (.error error left : Answer Result) := by
  intro lexical other equality
  cases equality
  exact own lexical left rfl

theorem LeavesObstructed.andThen {answer : Answer Value}
    {next : Value → Parser → Answer Result}
    (first : answer.LeavesObstructed)
    (later : ∀ value left, (next value left).LeavesObstructed) :
    (answer.andThen next).LeavesObstructed := by
  intro error left failed
  rcases cases_of_andThen_eq_error failed with
    failed | ⟨value, between, _, failed⟩
  · exact first error left failed
  · exact later value between error left failed

/-- A complaint is not a lexical error. -/
theorem LeavesObstructed.insist {answer : Answer Value}
    {complaint : Token → ParseError} (own : answer.LeavesObstructed)
    (recoverable : ∀ token, (complaint token).isFatal = false) :
    (answer.insist complaint).LeavesObstructed := by
  intro error left failed
  rcases cases_of_insist_eq_error failed with failed | ⟨_, complains⟩
  · exact own error left failed
  · have fatal := recoverable left.lookahead
    rw [← complains] at fatal
    cases fatal

end Answer

namespace Parser

open Answer

theorem leavesObstructed_advance (parser : Parser) :
    parser.advance.LeavesObstructed := by
  intro error left failed
  unfold advance at failed
  split at failed
  · cases failed
  · rename_i read
    cases failed
    exact Scanner.obstructed_of_advance read

theorem leavesObstructed_advance_ok {Value : Type} (value : Value)
    (parser : Parser) :
    (parser.advance.andThen fun () after => .ok value after
      : Answer Value).LeavesObstructed :=
  parser.leavesObstructed_advance.andThen
    fun _ left => leavesObstructed_ok value left

theorem leavesObstructed_closing (inner : Term) (parser : Parser) :
    (parser.closing inner).LeavesObstructed := by
  unfold closing
  split
  · exact leavesObstructed_advance_ok inner parser
  · exact leavesObstructed_error rfl parser

theorem leavesObstructed_dotAfter (declared : List Identifier)
    (parser : Parser) : (parser.dotAfter declared).LeavesObstructed := by
  unfold dotAfter
  split
  · exact leavesObstructed_error rfl parser
  · split
    · exact leavesObstructed_advance_ok declared parser
    · exact leavesObstructed_error rfl parser

theorem leavesObstructed_parameters (scope : Nat)
    (declared : List Identifier) (parser : Parser) :
    (parser.parameters scope declared).LeavesObstructed := by
  fun_induction parameters scope declared parser with
  | case1 declared parser name atName duplicate =>
      exact leavesObstructed_error rfl parser
  | case2 declared parser name atName fresh after read
      inductionHypothesis =>
      exact inductionHypothesis
  | case3 declared parser name atName fresh error left read =>
      have own := (parser.declare scope name).2.leavesObstructed_advance
      rw [read] at own
      exact own.of_error
  | case4 declared parser others =>
      exact leavesObstructed_ok declared parser

theorem leavesObstructed_header (scope : Nat) (parser : Parser) :
    (parser.header scope).LeavesObstructed := by
  unfold header
  split
  · refine parser.leavesObstructed_advance.andThen fun _ after => ?_
    exact (leavesObstructed_parameters scope [] after).andThen
      fun declared left => left.leavesObstructed_dotAfter declared
  · exact leavesObstructed_error rfl parser

end Parser

theorem leavesObstructed_of_evaluates
    {task : Task} {scope : Nat} {parser : Parser} {answer : Answer Term}
    (evaluated : Evaluates task scope parser answer) :
    answer.LeavesObstructed := by
  induction evaluated with
  | expressionAbstraction _ _ inductionHypothesis
  | expressionApplication _ _ inductionHypothesis
  | operandAtom _ _ inductionHypothesis
  | operandAbstraction _ _ inductionHypothesis =>
      exact inductionHypothesis
  | operatorFails _ inductionHypothesis
  | operandFails _ _ inductionHypothesis =>
      exact inductionHypothesis
  | operator _ _ _ laterHypothesis
  | moreOperands _ _ _ _ laterHypothesis =>
      exact laterHypothesis
  | noAbstraction | noAtom =>
      exact Answer.leavesObstructed_error rfl _
  | @headerFails scope parser left error opening header =>
      have own := parser.leavesObstructed_header scope
      rw [header] at own
      exact own.of_error
  | body opening header evaluated inductionHypothesis =>
      exact (inductionHypothesis.insist fun _ => rfl).andThen
        fun _ _ => Answer.leavesObstructed_ok _ _
  | noOperand =>
      exact Answer.leavesObstructed_ok _ _
  | @name scope parser name atName =>
      exact Parser.leavesObstructed_advance_ok _ parser
  | @openingFails scope parser left error opening read =>
      have own := parser.leavesObstructed_advance
      rw [read] at own
      exact own.of_error
  | parenthesized opening read evaluated inductionHypothesis =>
      exact (inductionHypothesis.insist fun _ => rfl).andThen
        fun inner left => left.leavesObstructed_closing inner

namespace Parser

theorem leavesObstructed_skipNewLines (parser : Parser) :
    parser.skipNewLines.LeavesObstructed := by
  fun_induction skipNewLines parser with
  | case1 parser atNewLine after read inductionHypothesis =>
      exact inductionHypothesis
  | case2 parser atNewLine error left read =>
      have own := parser.leavesObstructed_advance
      rw [read] at own
      exact own
  | case3 parser otherToken =>
      exact Answer.leavesObstructed_ok () parser

theorem leavesObstructed_term (parser : Parser) :
    parser.term.LeavesObstructed :=
  ((leavesObstructed_of_evaluates (evaluates .expression 0 _)).insist
    fun _ => rfl).andThen fun _ _ => Answer.leavesObstructed_ok _ _

theorem leavesObstructed_parse (parser : Parser) :
    parser.parse.LeavesObstructed := by
  refine parser.leavesObstructed_skipNewLines.andThen fun _ ready => ?_
  split
  · exact Answer.leavesObstructed_error rfl ready
  · exact ready.leavesObstructed_term

/-- A call that answers with a lexical error leaves an obstructed scanner. -/
theorem obstructed_of_answer {parser : Parser} {call : Call}
    {error : LexicalError}
    (failed : (parser.answer call).1 = some (.error (.lexical error))) :
    (parser.answer call).2.scanner.Obstructed error := by
  have own := parser.leavesObstructed_parse
  cases call with
  | parse =>
      cases parsed : parser.parse with
      | ok term after =>
          simp [answer, parsed] at failed
      | error other left =>
          simp only [answer, parsed, Option.some.injEq,
            Except.error.injEq] at failed ⊢
          subst failed
          exact own error left parsed
  | next =>
      cases ended : parser.finished with
      | true =>
          rw [answer, next_of_finished ended] at failed
          cases failed
      | false =>
          cases parsed : parser.parse with
          | ok term after =>
              rw [answer, next_of_ok ended parsed] at failed
              cases failed
          | error other left =>
              by_cases atEnd : other = .endOfInput
              · subst atEnd
                rw [answer, next_of_endOfInput ended parsed] at failed
                cases failed
              · rw [answer, next_of_error ended atEnd parsed] at failed ⊢
                cases failed
                exact own error left parsed

/-! ## What calls keep -/

namespace KeptByReading

variable (holds : Scanner → Prop) {parser : Parser}

/-- Besides reading tokens, a call changes the scopes, the log and the mark of
the end, but not the scanner. -/
theorem answer (kept : KeptByReading fun parser => holds parser.scanner)
    (start : holds parser.scanner) (call : Call) :
    holds (parser.answer call).2.scanner := by
  have read : holds parser.parse.parser.scanner :=
    kept.parse (fun _ unchanged => unchanged) start
  cases call with
  | parse =>
      cases parsed : parser.parse <;> rw [parsed] at read <;>
        simp only [Parser.answer, parsed] <;> exact read
  | next =>
      simp only [Parser.answer, Parser.next]
      split
      · exact start
      · split <;> rename_i parsed <;> rw [parsed] at read <;> exact read

theorem after (kept : KeptByReading fun parser => holds parser.scanner)
    (start : holds parser.scanner) (calls : List Call) :
    holds (parser.after calls).scanner := by
  induction calls generalizing parser with
  | nil =>
      exact start
  | cons call later inductionHypothesis =>
      exact inductionHypothesis (answer holds kept start call)

end KeptByReading

/-- An obstructed scanner stays where it is. -/
theorem keptByReading_obstructed {scanner : Scanner} {error : LexicalError}
    (obstructed : scanner.Obstructed error) :
    KeptByReading fun parser => parser.scanner = scanner where
  advance := by
    rintro parser rfl
    unfold Parser.advance
    rw [obstructed]
    rfl
  scopes := fun _ unchanged => unchanged

/-- The mark in front of the first token is not shown again. -/
theorem keptByReading_begun :
    KeptByReading fun parser => parser.scanner.lookahead ≠ .startOfFile where
  advance := by
    intro parser begun
    unfold Parser.advance
    split
    · rename_i read
      exact Scanner.lookahead_ne_startOfFile_of_advance read
    · rename_i read
      intro atStart
      exact begun ((Scanner.lookahead_of_advance_error read).symm.trans atStart)
  scopes := fun _ begun => begun

theorem ReachedFrom.begun {source : String} {parser : Parser}
    (reached : ReachedFrom source parser) :
    parser.lookahead ≠ .startOfFile := by
  obtain ⟨log, started, calls, begins, rfl⟩ := reached
  have begun : started.scanner.lookahead ≠ .startOfFile :=
    Scanner.lookahead_ne_startOfFile_of_advance (scanner_of_advance begins)
  exact KeptByReading.after (·.lookahead ≠ .startOfFile)
    keptByReading_begun begun calls

/-! ## Reading terms in front of an obstruction -/

/-- What an attempt to read a term answers where `error` obstructs the scanner
and a token is shown: the same error if a term, or an empty line, goes on
behind the token, and a complaint about the token if no term begins with it. -/
inductive AnswersObstructed (error : LexicalError) :
    Token → ParseError → Prop where
  | newLine : AnswersObstructed error .newLine (.lexical error)
  | backslash : AnswersObstructed error .backslash (.lexical error)
  | leftParen : AnswersObstructed error .leftParen (.lexical error)
  | identifier (name : String) :
      AnswersObstructed error (.identifier name) (.lexical error)
  | dot : AnswersObstructed error .dot (.unexpectedToken .dot)
  | rightParen :
      AnswersObstructed error .rightParen (.unexpectedToken .rightParen)

theorem exists_answersObstructed {shown : Token} (error : LexicalError)
    (begun : shown ≠ .startOfFile) (unfinished : shown ≠ .endOfFile) :
    ∃ answer, AnswersObstructed error shown answer := by
  cases shown with
  | startOfFile =>
      exact absurd rfl begun
  | endOfFile =>
      exact absurd rfl unfinished
  | newLine =>
      exact ⟨_, .newLine⟩
  | backslash =>
      exact ⟨_, .backslash⟩
  | dot =>
      exact ⟨_, .dot⟩
  | leftParen =>
      exact ⟨_, .leftParen⟩
  | rightParen =>
      exact ⟨_, .rightParen⟩
  | identifier name =>
      exact ⟨_, .identifier name⟩

variable {parser : Parser} {error : LexicalError}

theorem exists_advance_error_of_obstructed
    (obstructed : parser.scanner.Obstructed error) :
    ∃ left, parser.advance = .error (.lexical error) left := by
  obtain ⟨left, failed, _⟩ := exists_advance_error_of_scanner obstructed
  exact ⟨left, failed⟩

/-- Every expression begins with a token that the rules go on behind. -/
theorem expression_of_obstructed (scope : Nat)
    (obstructed : parser.scanner.Obstructed error)
    (begins : parser.lookahead.beginsExpression = true) :
    ∃ left, parser.expression scope = .error (.lexical error) left := by
  have stillObstructed :
      (parser.openScope scope).2.scanner.Obstructed error :=
    obstructed
  obtain ⟨left, failed⟩ :=
    exists_advance_error_of_obstructed stillObstructed
  refine ⟨left, ?_⟩
  by_cases opening : parser.lookahead = .backslash
  · have stillOpening : (parser.openScope scope).2.lookahead = .backslash :=
      opening
    rw [expression_of_backslash scope opening, abstraction_eq, header,
      if_pos stillOpening, failed]
    rfl
  · rw [expression_of_ne scope opening, application_eq]
    have beginsAtom :
        (parser.openScope scope).2.lookahead.beginsAtom = true := by
      rw [lookahead_openScope]
      cases shown : parser.lookahead <;> rw [shown] at begins opening <;>
        first | rfl | exact absurd rfl opening | cases begins
    rcases cases_of_beginsAtom beginsAtom with ⟨name, atName⟩ | opens
    · rw [atom_of_identifier _ atName, failed]
      rfl
    · rw [atom_of_leftParen _ opens, failed]
      rfl

theorem term_of_obstructed
    (obstructed : parser.scanner.Obstructed error)
    (begins : parser.lookahead.beginsExpression = true) :
    ∃ left, parser.term = .error (.lexical error) left := by
  have stillObstructed :
      { parser with scopes := .root }.scanner.Obstructed error :=
    obstructed
  obtain ⟨left, failed⟩ :=
    expression_of_obstructed 0 stillObstructed begins
  refine ⟨left, ?_⟩
  rw [term, failed]
  rfl

theorem term_of_not (absent : parser.lookahead.beginsExpression = false) :
    ∃ left, parser.term = .error (.unexpectedToken parser.lookahead) left := by
  have stillAbsent :
      { parser with scopes := .root }.lookahead.beginsExpression = false :=
    absent
  refine ⟨(openScope { parser with scopes := .root } 0).2, ?_⟩
  rw [term, expression_of_not 0 stillAbsent, Answer.insist_notFound,
    Answer.andThen_error]
  rfl

theorem parse_of_obstructed {answer : ParseError}
    (obstructed : parser.scanner.Obstructed error)
    (answers : AnswersObstructed error parser.lookahead answer) :
    ∃ left, parser.parse = .error answer left := by
  by_cases atNewLine : parser.lookahead = .newLine
  · obtain ⟨left, failed⟩ := exists_advance_error_of_obstructed obstructed
    have skipped := skipNewLines_of_newLine atNewLine
    rw [failed, Answer.andThen_error] at skipped
    rw [atNewLine] at answers
    cases answers
    exact ⟨left, parse_of_skipNewLines_error skipped⟩
  · rw [parse_eq_term atNewLine obstructed.unfinished]
    generalize shown : parser.lookahead = token at answers
    cases answers with
    | newLine =>
        exact absurd shown atNewLine
    | backslash | leftParen | identifier name =>
        exact term_of_obstructed obstructed (by rw [shown]; rfl)
    | dot | rightParen =>
        rw [← shown]
        exact term_of_not (by rw [shown]; rfl)

theorem answer_parse_of_error {left : Parser} {error : ParseError}
    (failed : parser.parse = .error error left) :
    parser.answer .parse = (some (.error error), left) := by
  simp only [answer, failed]

/-- Once the scanner is obstructed, requests for a term are answered alike,
whatever calls come before them. -/
theorem answer_after_obstruction {answer : ParseError}
    (obstructed : parser.scanner.Obstructed error)
    (answers : AnswersObstructed error parser.lookahead answer)
    (calls : List Call) :
    ((parser.after calls).answer .parse).1 = some (.error answer) := by
  have unmoved : (parser.after calls).scanner = parser.scanner :=
    KeptByReading.after (· = parser.scanner)
      (keptByReading_obstructed obstructed) rfl calls
  have stillObstructed : (parser.after calls).scanner.Obstructed error := by
    rw [unmoved]
    exact obstructed
  have stillAnswers :
      AnswersObstructed error (parser.after calls).lookahead answer := by
    rw [lookahead, unmoved]
    exact answers
  obtain ⟨left, failed⟩ := parse_of_obstructed stillObstructed stillAnswers
  rw [answer_parse_of_error failed]

/-! ## The sequence of terms -/

/-- An answer with which the sequence of terms ends: nothing, or an error. -/
def EndsSequence : Option (Except ParseError Term) → Prop
  | none => True
  | some (.error _) => True
  | some (.ok _) => False

theorem finished_of_next (ends : EndsSequence parser.next.1) :
    parser.next.2.finished = true := by
  cases ended : parser.finished with
  | true =>
      rw [next_of_finished ended]
      exact ended
  | false =>
      cases parsed : parser.parse with
      | ok term after =>
          rw [next_of_ok ended parsed] at ends
          exact ends.elim
      | error error left =>
          by_cases atEnd : error = .endOfInput
          · subst atEnd
            rw [next_of_endOfInput ended parsed]
          · rw [next_of_error ended atEnd parsed]

/-- Reading a term on request does not take the end of the sequence back. -/
theorem finished_answer (ended : parser.finished = true) (call : Call) :
    (parser.answer call).2.finished = true := by
  cases call with
  | parse =>
      have unchanged := parser.finished_parse
      rw [ended] at unchanged
      cases parsed : parser.parse <;> rw [parsed] at unchanged <;>
        simp only [answer, parsed] <;> exact unchanged
  | next =>
      rw [answer, next_of_finished ended]
      exact ended

theorem finished_after (ended : parser.finished = true)
    (calls : List Call) : (parser.after calls).finished = true := by
  induction calls generalizing parser with
  | nil =>
      exact ended
  | cons call later inductionHypothesis =>
      exact inductionHypothesis (finished_answer ended call)

/-! ## Errors that are final -/

/-- After an error in reading a token the scanner fails in the same way for
ever and keeps its lookahead. After a lexical error a parser answers every
request for a term alike, whatever calls are mixed in: with the same error or
with a complaint about its lookahead, as this token decides, and so never with
a term and never with the end of the text. And where the sequence of terms has
ended, nothing comes any more. -/
theorem lexical_errors_are_final :
    (∀ (scanner left : Scanner) (error : LexicalError),
      scanner.advance = .error error left → ∀ count,
        (left.afterAttempts count).advance =
            .error error (left.afterAttempts count) ∧
          (left.afterAttempts count).lookahead = scanner.lookahead) ∧
    (∀ (source : String) (parser : Parser) (call : Call)
        (error : LexicalError), ReachedFrom source parser →
      (parser.answer call).1 = some (.error (.lexical error)) →
      ∃ answer,
        AnswersObstructed error (parser.answer call).2.lookahead answer ∧
        ∀ calls,
          (((parser.answer call).2.after calls).answer .parse).1 =
            some (.error answer)) ∧
    (∀ parser : Parser, EndsSequence (parser.answer .next).1 → ∀ calls,
      (((parser.answer .next).2.after calls).answer .next).1 = none) := by
  refine ⟨?_, ?_, ?_⟩
  · intro scanner left error failed count
    have obstructed := Scanner.obstructed_of_advance failed
    rw [obstructed.afterAttempts_eq count]
    exact ⟨obstructed, Scanner.lookahead_of_advance_error failed⟩
  · intro source parser call error reached failed
    have obstructed := obstructed_of_answer failed
    obtain ⟨answer, answers⟩ := exists_answersObstructed error
      (reached.after [call]).begun obstructed.unfinished
    exact ⟨answer, answers, answer_after_obstruction obstructed answers⟩
  · intro parser ends calls
    have ended := finished_after (finished_of_next ends) calls
    rw [answer, answer, next_of_finished ended]

/-- A parser in front of the text `(a)`, which a character that begins no token
follows. -/
def inFrontOfObstruction : Parser where
  scanner := ⟨['a', ')', '\x01'], 1, .leftParen⟩
  scopes := .root
  finished := false
  log := .silent

set_option maxRecDepth 1000 in
/-- Behind `(a)` the closing parenthesis has been read before the error is met,
and every later attempt complains about the parenthesis. -/
theorem lexical_error_behind_parenthesis_is_final :
    ReachedFrom "(a)\x01" inFrontOfObstruction ∧
      (inFrontOfObstruction.answer .parse).1 =
        some (.error (.lexical (.unhandledCharacter '\x01'))) ∧
      ∀ calls,
        (((inFrontOfObstruction.answer .parse).2.after calls).answer
          .parse).1 = some (.error (.unexpectedToken .rightParen)) := by
  have begins :
      start .silent "(a)\x01" = .ok () inFrontOfObstruction := by
    cbv
  have reached : ReachedFrom "(a)\x01" inFrontOfObstruction :=
    ⟨.silent, inFrontOfObstruction, [], begins, rfl⟩
  have failed : (inFrontOfObstruction.answer .parse).1 =
      some (.error (.lexical (.unhandledCharacter '\x01'))) := by
    cbv
  have shown :
      (inFrontOfObstruction.answer .parse).2.lookahead = .rightParen := by
    cbv
  obtain ⟨answer, answers, later⟩ :=
    lexical_errors_are_final.2.1 _ _ _ _ reached failed
  rw [shown] at answers
  cases answers
  exact ⟨reached, failed, later⟩

end Parser

end NumberedLambda
