import NumberedLambda.Parser.Expression

/-!
# The terms of a source text

A source text holds terms on lines of their own. Reading a term skips the
empty lines before it and stops at the first token that does not belong to it,
which is where the next attempt goes on, also after an error. Every term
starts with an empty tree of scopes, so names of one line mean nothing on
another.

Besides reading one term on request (`parse`), the terms can be taken one after
the other until the first error or the end of the text (`next`, `terms`).
-/

namespace NumberedLambda

namespace Parser

/-- A parser over a source text, with its first token read. -/
def start (log : Log) (source : String) : Answer Unit :=
  advance
    { scanner := .ofSource source
      scopes := .root
      finished := false
      log := log }

/-- Skip the ends of empty lines. -/
def skipNewLines (parser : Parser) : Answer Unit :=
  if _ : parser.lookahead = .newLine then
    match _ : parser.advance with
    | .ok () after => after.skipNewLines
    | .error error left => .error error left
  else
    .ok () parser
termination_by parser.remaining
decreasing_by
  have unfinished : parser.lookahead ≠ .endOfFile :=
    unfinished_of_eq ‹parser.lookahead = .newLine› nofun
  exact remaining_lt_of_advance unfinished ‹_›

/-- The term that begins at the current token, in an empty tree of scopes.
That no rule applies is reported as an unexpected token. -/
def term (parser : Parser) : Answer Term :=
  ((expression 0 { parser with scopes := .root }).insist
      .unexpectedToken).andThen fun term left =>
    .ok term { left with log := left.log.add (.parsed term) }

/-- Read the next term. -/
def parse (parser : Parser) : Answer Term :=
  parser.skipNewLines.andThen fun () ready =>
    if ready.lookahead = .endOfFile then
      .error .endOfInput ready
    else
      ready.term

theorem weight_skipNewLines_le (parser : Parser) :
    Answer.weight parser.skipNewLines ≤ parser.remaining + 1 := by
  fun_induction skipNewLines parser with
  | case1 parser atNewLine after read inductionHypothesis =>
      have shorter :=
        remaining_lt_of_advance (unfinished_of_eq atNewLine nofun) read
      omega
  | case2 parser atNewLine error left read =>
      exact Nat.le_succ_of_le (remaining_le_of_advance_error read)
  | case3 parser otherToken =>
      exact Nat.le_refl _

theorem remaining_le_of_skipNewLines_error
    {parser left : Parser} {error : ParseError}
    (skipped : parser.skipNewLines = .error error left) :
    left.remaining ≤ parser.remaining := by
  fun_induction skipNewLines parser with
  | case1 parser atNewLine after read inductionHypothesis =>
      have shorter :=
        remaining_lt_of_advance (unfinished_of_eq atNewLine nofun) read
      exact Nat.le_trans (inductionHypothesis skipped)
        (Nat.le_of_lt shorter)
  | case2 parser atNewLine otherError otherLeft read =>
      cases skipped
      exact remaining_le_of_advance_error read
  | case3 parser otherToken =>
      cases skipped

theorem weight_term_le (parser : Parser) :
    Answer.weight parser.term ≤ parser.remaining := by
  have bound :=
    weight_expression_le 0 { parser with scopes := .root }
  rw [← Answer.weight_insist _ .unexpectedToken] at bound
  unfold term
  cases answer :
      (expression 0 { parser with scopes := .root }).insist
        .unexpectedToken with
  | ok term left =>
      rw [answer] at bound
      exact bound
  | error error left =>
      rw [answer] at bound
      exact bound

theorem weight_parse_le (parser : Parser) :
    Answer.weight parser.parse ≤ parser.remaining := by
  have skipBound := parser.weight_skipNewLines_le
  unfold parse
  cases skipped : parser.skipNewLines with
  | error error left =>
      exact remaining_le_of_skipNewLines_error skipped
  | ok value ready =>
      rw [skipped] at skipBound
      have started : ready.remaining ≤ parser.remaining :=
        Nat.le_of_succ_le_succ skipBound
      rw [Answer.andThen_ok]
      split
      · exact started
      · exact Nat.le_trans ready.weight_term_le started

/-- Reading a term uses up part of what remains. -/
theorem remaining_lt_of_parse {parser after : Parser} {term : Term}
    (parsed : parser.parse = .ok term after) :
    after.remaining < parser.remaining := by
  have bound := parser.weight_parse_le
  rw [parsed] at bound
  exact bound

/-- The next element of the sequence of terms. The sequence ends at the end
of the text and after the first error. -/
def next (parser : Parser) : Option (Except ParseError Term) × Parser :=
  if parser.finished then
    (none, parser)
  else
    match parser.parse with
    | .ok term after => (some (.ok term), after)
    | .error .endOfInput after => (none, { after with finished := true })
    | .error error after =>
        (some (.error error), { after with finished := true })

/-- The remaining terms of the text, and the error after them if there is
one. -/
def terms (parser : Parser) : List Term × Option ParseError :=
  match _ : parser.parse with
  | .ok term after => (term :: after.terms.1, after.terms.2)
  | .error .endOfInput _ => ([], none)
  | .error error _ => ([], some error)
termination_by parser.remaining
decreasing_by all_goals exact remaining_lt_of_parse ‹_›

end Parser

/-- The first term of a source text. What follows it is not looked at. -/
def Term.parse (source : String) : Except ParseError Term :=
  match (Parser.start .silent source).andThen fun () parser =>
      parser.parse with
  | .ok term _ => .ok term
  | .error error _ => .error error

end NumberedLambda
