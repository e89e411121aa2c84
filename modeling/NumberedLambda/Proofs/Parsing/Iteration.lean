import NumberedLambda.Parser.Iteration
import NumberedLambda.Proofs.Parsing.Invariance
import NumberedLambda.Proofs.Parsing.Lines

/-!
# Iteration reads what is read without it

No rule touches the mark that the sequence of terms has ended; only asking for
the next element sets it, at the end of the text and at the first error. So
iteration over a parser that has not ended yields the terms that reading one
after the other gives, and the error that this ends with.
-/

namespace NumberedLambda

/-! ## The mark of the end -/

namespace Parser

theorem keptByReading_finished (mark : Bool) :
    KeptByReading fun parser => parser.finished = mark where
  advance := by
    intro parser unchanged
    unfold Parser.advance
    split <;> exact unchanged
  scopes := fun _ unchanged => unchanged

/-- Reading a term does not end the sequence of terms. -/
theorem finished_parse (parser : Parser) :
    parser.parse.parser.finished = parser.finished :=
  (keptByReading_finished parser.finished).parse
    (fun _ unchanged => unchanged) rfl

end Parser

/-! ## What iteration yields -/

/-- The terms that are read, and the error after them if there is one, as the
elements of one sequence. -/
def Reading.items (reading : Reading) : List (Except ParseError Term) :=
  reading.1.map .ok ++ reading.2.toList.map .error

theorem Parser.items_eq_terms {parser : Parser}
    (unfinished : parser.finished = false) :
    parser.items = Reading.items parser.terms := by
  induction measured : parser.remaining using Nat.strongRecOn
    generalizing parser with
  | ind size inductionHypothesis =>
      subst measured
      cases parsed : parser.parse with
      | ok term after =>
          have afterUnfinished : after.finished = false := by
            have unchanged := parser.finished_parse
            rw [parsed, unfinished] at unchanged
            exact unchanged
          have later := inductionHypothesis _ (remaining_lt_of_parse parsed)
            afterUnfinished rfl
          rw [items_of_some (next_of_ok unfinished parsed), later,
            terms_of_ok parsed]
          rfl
      | error error left =>
          by_cases atEnd : error = .endOfInput
          · subst atEnd
            rw [items_of_none (next_of_endOfInput unfinished parsed),
              terms_of_endOfInput parsed]
            rfl
          · have ended : { left with finished := true }.items = [] :=
              items_of_none (next_of_finished rfl)
            rw [items_of_some (next_of_error unfinished atEnd parsed), ended,
              terms_of_error atEnd parsed]
            rfl

/-- Iteration over a source text yields what is read of it. -/
theorem items_start (log : Log) (source : String) :
    (Parser.start log source).items = (sourceTerms source).items := by
  rw [← sourceTerms_eq log source]
  let initial : Parser := ⟨.ofSource source, .root, false, log⟩
  have unfinished : initial.advance.parser.finished = false :=
    (Parser.keptByReading_finished false).advance rfl
  unfold Parser.start
  cases started : initial.advance with
  | ok value parser =>
      rw [started] at unfinished
      exact Parser.items_eq_terms unfinished
  | error error left =>
      rfl

end NumberedLambda
