import NumberedLambda.Proofs.Parsing.Applicability
import NumberedLambda.Proofs.Parsing.Obstruction
import NumberedLambda.Proofs.Scanning.NewLines
import NumberedLambda.SourceLines

/-!
# What reading terms uses up

A term uses up at least one token besides the ends of empty lines, and it ends
at a token with which no further term begins. If this is not the end of a line,
no term comes after it; and a line ends with a newline, which is not there for
any other term. So there are no more terms to come than there are lines, and
the sequence of elements that a parser yields is finite and stays at its end.
-/

namespace NumberedLambda

open Grammar (exists_cons_of_derives)
open Scanner (Passes)

namespace Parser

variable {parser after : Parser} {term : Term}

/-! ## One term -/

/-- A term is read by passing tokens, and not only ends of empty lines, up to a
token in front of which a term can end. -/
theorem passes_of_parse (parsed : parser.parse = .ok term after) :
    after.lookahead.endsTerm = true ∧
      ∃ tokens, Passes parser.scanner tokens after.scanner ∧
        ∃ token ∈ tokens, token ≠ .newLine ∧ token ≠ .endOfFile := by
  obtain ⟨⟨newLines, sentence, _, derivation, passes⟩, ends⟩ :=
    faces_of_parse parsed
  obtain ⟨first, later, rfl, begins⟩ := exists_cons_of_derives derivation
  have member : first ∈ newLines ++ first :: later :=
    List.mem_append_right newLines (List.mem_cons_self ..)
  refine ⟨ends, newLines ++ first :: later, passes, first, member, ?_, ?_⟩
  · rintro rfl
    cases begins
  · rintro rfl
    cases begins

/-! ## The number of terms -/

/-- Only at the end of a line another term can follow. -/
theorem terms_fst_of_endsTerm (ends : parser.lookahead.endsTerm = true)
    (otherToken : parser.lookahead ≠ .newLine) : parser.terms.1 = [] := by
  by_cases atEnd : parser.lookahead = .endOfFile
  · rw [terms_of_endOfFile atEnd]
  · obtain ⟨left, failed⟩ :=
      term_of_not (Token.not_beginsExpression_of_endsTerm ends)
    rw [← parse_eq_term otherToken atEnd] at failed
    rw [terms_of_error ParseError.noConfusion failed]

/-- Besides the first term, every term has a newline of its own in front of
it. -/
theorem length_terms_le (parser : Parser) :
    parser.terms.1.length ≤ parser.scanner.newLinesAhead + 1 := by
  fun_induction terms parser with
  | case1 parser term after parsed inductionHypothesis =>
      obtain ⟨ends, tokens, passes, token, member, _⟩ :=
        passes_of_parse parsed
      apply Nat.succ_le_succ
      by_cases atNewLine : after.lookahead = .newLine
      · have fewer := Scanner.newLinesAhead_lt_of_passes passes
          (List.ne_nil_of_mem member) atNewLine
        exact Nat.le_trans inductionHypothesis fewer
      · rw [terms_fst_of_endsTerm ends atNewLine]
        exact Nat.zero_le _
  | case2 parser left parsed =>
      exact Nat.zero_le _
  | case3 parser error left noEnd parsed =>
      exact Nat.zero_le _

/-! ## The sequence of elements -/

/-- The first element is the one that comes next. -/
theorem getElem?_items_zero (parser : Parser) :
    parser.items[0]? = parser.next.1 := by
  cases found : parser.next with
  | mk item after =>
      cases item with
      | none =>
          rw [items_of_none found]
          rfl
      | some item =>
          rw [items_of_some found]
          rfl

/-- The elements behind the first one are those that are still to come after
it. Where there is none, there is none after it either. -/
theorem getElem?_items_succ (parser : Parser) (index : Nat) :
    parser.items[index + 1]? = parser.next.2.items[index]? := by
  cases found : parser.next with
  | mk item after =>
      cases item with
      | none =>
          have ends : EndsSequence parser.next.1 := by
            rw [found]
            exact trivial
          have ended := finished_of_next ends
          rw [found] at ended
          rw [items_of_none found, items_of_none (next_of_finished ended)]
          rfl
      | some item =>
          rw [items_of_some found, List.getElem?_cons_succ]

/-- What the next element is after `index` elements have been asked for. Behind
the last element there is nothing, however often it is asked for. -/
theorem answer_next_after (parser : Parser) (index : Nat) :
    ((parser.after (List.replicate index .next)).answer .next).1 =
      parser.items[index]? := by
  induction index generalizing parser with
  | zero =>
      exact parser.getElem?_items_zero.symm
  | succ index inductionHypothesis =>
      rw [List.replicate_succ, after_cons, inductionHypothesis]
      exact (parser.getElem?_items_succ index).symm

/-- The elements are terms, no more than there are lines to be read, and an
error after them if there is one. -/
theorem exists_items_eq (parser : Parser) :
    ∃ terms error, terms.length ≤ parser.scanner.newLinesAhead + 1 ∧
      parser.items = Reading.items (terms, error) := by
  cases ended : parser.finished with
  | true =>
      exact ⟨[], none, Nat.zero_le _, items_of_none (next_of_finished ended)⟩
  | false =>
      exact ⟨parser.terms.1, parser.terms.2, parser.length_terms_le,
        items_eq_terms ended⟩

/-! ## Parsers that are reached from a source text -/

theorem remaining_after_le (parser : Parser) (calls : List Call) :
    (parser.after calls).remaining ≤ parser.remaining := by
  induction calls generalizing parser with
  | nil =>
      exact Nat.le_refl _
  | cons call later inductionHypothesis =>
      exact Nat.le_trans (inductionHypothesis (parser.answer call).2)
        (parser.remaining_answer_le call)

theorem keptByReading_newLinesAhead (bound : Nat) :
    KeptByReading fun parser => parser.scanner.newLinesAhead ≤ bound where
  advance := by
    intro parser bounded
    rw [scanner_advance]
    exact Nat.le_trans parser.scanner.newLinesAhead_attempt_le bounded
  scopes := fun _ bounded => bounded

variable {source : String}

/-- At most the characters of the text remain to be read. -/
theorem ReachedFrom.remaining_le (reached : ReachedFrom source parser) :
    parser.remaining ≤ source.toList.length := by
  obtain ⟨log, started, calls, begins, rfl⟩ := reached
  have shorter := remaining_lt_of_advance Token.noConfusion begins
  exact Nat.le_trans (started.remaining_after_le calls)
    (Nat.le_of_lt_succ shorter)

/-- At most the newlines of the text remain to be read. -/
theorem ReachedFrom.newLinesAhead_le (reached : ReachedFrom source parser) :
    parser.scanner.newLinesAhead ≤ newLineCount source := by
  obtain ⟨log, started, calls, begins, rfl⟩ := reached
  exact KeptByReading.after (·.newLinesAhead ≤ newLineCount source)
    (keptByReading_newLinesAhead _)
    (Scanner.newLinesAhead_le_of_advance (scanner_of_advance begins)) calls

end Parser

end NumberedLambda
