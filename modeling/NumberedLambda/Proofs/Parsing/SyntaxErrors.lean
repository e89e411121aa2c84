import Mathlib
import NumberedLambda.Proofs.Parsing.Acceptance
import NumberedLambda.Proofs.Parsing.Stopping

/-!
# Syntax errors are reported where no sentence goes on

A parser that reports a syntax error has read the beginning of a sentence,
after the ends of empty lines, and stands in front of a token with which no
sentence goes on. The error carries this token and tells what was due in its
place.
-/

namespace NumberedLambda

open Grammar
open Scanner (Passes)

namespace Parser

variable {parser left : Parser} {error : ParseError}

theorem skipNewLines_ne_of_isSyntaxError
    (syntactic : error.isSyntaxError = true) :
    parser.skipNewLines ≠ .error error left := by
  intro failed
  fun_induction skipNewLines parser with
  | case1 parser atNewLine after read inductionHypothesis =>
      exact inductionHypothesis failed
  | case2 parser atNewLine otherError otherLeft read =>
      cases failed
      exact advance_ne_of_isSyntaxError syntactic read
  | case3 parser otherToken =>
      cases failed

theorem stops_of_term (failed : parser.term = .error error left)
    (syntactic : error.isSyntaxError = true) :
    Progress.start.Stops parser.scanner error left.scanner := by
  let begun : Parser := { parser with scopes := .root }
  have evaluated : Evaluates .expression 0 begun (begun.expression 0) :=
    evaluates .expression 0 begun
  unfold term at failed
  rcases Answer.cases_of_andThen_eq_error failed with
    failed | ⟨_, _, _, failed⟩
  · have stops : Progress.start.Stops begun.scanner error left.scanner :=
      stops_of_insist evaluated
        (fun own => stops_of_evaluates evaluated error left own syntactic 0
          (.expression .sentence) rfl) failed
    exact stops
  · cases failed

theorem lookahead_of_skipNewLines {ready : Parser}
    (skipped : parser.skipNewLines = .ok () ready) :
    ready.lookahead ≠ .newLine := by
  fun_induction skipNewLines parser with
  | case1 parser atNewLine after read inductionHypothesis =>
      exact inductionHypothesis skipped
  | case2 parser atNewLine error left read =>
      cases skipped
  | case3 parser otherToken =>
      cases skipped
      exact otherToken

/-- A call has skipped the ends of empty lines and after them has consumed
tokens. -/
def HasConsumed (parser : Parser) (consumed : List Token) (left : Parser) :
    Prop :=
  ∃ newLines between, (∀ token ∈ newLines, token = Token.newLine) ∧
    Passes parser.scanner newLines between ∧
    between.lookahead ≠ .newLine ∧
    Passes between consumed left.scanner

/-- A syntax error is reported at the first token that cannot continue a
sentence: the tokens consumed by the call begin a sentence, but none begins
with them and the lookahead after the call. The error carries this lookahead,
and what has been consumed decides which error it is. -/
theorem syntax_error_at_first_impossible_token
    (failed : parser.parse = .error error left)
    (syntactic : error.isSyntaxError = true) :
    ∃ consumed, parser.HasConsumed consumed left ∧ Viable consumed ∧
      ¬ Viable (consumed ++ [left.lookahead]) ∧
      error.Explains consumed left.lookahead := by
  unfold parse at failed
  rcases Answer.cases_of_andThen_eq_error failed with
    failed | ⟨_, ready, skipped, failed⟩
  · exact absurd failed (skipNewLines_ne_of_isSyntaxError syntactic)
  · split at failed
    · cases failed
      cases syntactic
    · obtain ⟨newLines, ends, passesNewLines⟩ :=
        passes_of_skipNewLines skipped
      obtain ⟨consumed, reached, passes, made, stuck, complaint⟩ :=
        stops_of_term failed syntactic
      refine ⟨consumed, ⟨newLines, ready.scanner, ends, passesNewLines,
        lookahead_of_skipNewLines skipped, passes⟩, ?_, ?_, ?_⟩
      · exact viable_iff_exists_after.mpr ⟨reached, made⟩
      · exact not_viable_of_step made stuck
      · rw [complaint]
        exact explains_complaint made left.lookahead

end Parser

theorem Term.exists_parser_of_parse_error {source : String}
    {error : ParseError} (failed : Term.parse source = .error error)
    (syntactic : error.isSyntaxError = true) :
    ∃ parser left, Parser.parse parser = .error error left := by
  unfold Term.parse at failed
  cases started : Parser.start .silent source with
  | error other left =>
      rw [started] at failed
      cases failed
      exact absurd started (Parser.advance_ne_of_isSyntaxError syntactic)
  | ok value parser =>
      rw [started, Answer.andThen_ok] at failed
      cases read : parser.parse with
      | error other left =>
          rw [read] at failed
          cases failed
          exact ⟨parser, left, read⟩
      | ok found after =>
          rw [read] at failed
          cases failed

/-- In `(\x y x. x)` the second `x` is the first token that cannot continue a
sentence, inside a list of parameters inside parentheses. -/
theorem Parser.duplicate_at_first_impossible_token :
    ∃ (parser left : Parser) (consumed : List Token),
      parser.parse = .error (.duplicateParameter "x") left ∧
      parser.HasConsumed consumed left ∧ Viable consumed ∧
      ¬ Viable (consumed ++ [left.lookahead]) ∧
      UnfinishedParameters consumed := by
  have read : Term.parse "(\\x y x. x)" =
      .error (.duplicateParameter "x") := by
    cbv
  obtain ⟨parser, left, failed⟩ := Term.exists_parser_of_parse_error read rfl
  obtain ⟨consumed, passed, viable, ended, explains⟩ :=
    syntax_error_at_first_impossible_token failed rfl
  exact ⟨parser, left, consumed, failed, passed, viable, ended,
    (explains.duplicateParameter_iff.mp ⟨"x", rfl⟩).1⟩

end NumberedLambda
