import NumberedLambda.Proofs.Scanning.Lexemes
import NumberedLambda.Proofs.Scanning.Obstruction

/-!
# The newlines in front of a scanner

A scanner does not take back anything that it has read, so the number of
newlines that it has in front of it never rises, and it falls whenever the end
of a line is read.
-/

namespace NumberedLambda

open Character

namespace Scanner

/-- The number of newlines that have not been read. -/
def newLinesAhead (scanner : Scanner) : Nat :=
  scanner.rest.count '\n'

theorem rest_suffix_of_readToken {scanner after : Scanner}
    (read : scanner.readToken = .ok () after) :
    after.rest <:+ scanner.rest := by
  unfold readToken at read
  split at read
  · cases read
    exact List.suffix_rfl
  · rename_i character later shape
    split at read
    · cases read
      rw [shape]
      exact List.suffix_cons character later
    · split at read
      · cases read
        exact List.dropWhile_suffix isIdentifierCharacter
      · cases read

/-- What is left to be read after an attempt is the end of what was left
before. -/
theorem rest_attempt_suffix (scanner : Scanner) :
    scanner.attempt.rest <:+ scanner.rest := by
  have behindBlanks : scanner.skipBlanks.rest <:+ scanner.rest :=
    List.dropWhile_suffix isBlank
  by_cases finished : scanner.lookahead = .endOfFile
  · have unmoved : scanner.attempt = scanner := by
      rw [attempt, advance_of_endOfFile finished]
    exact ⟨[], congrArg rest unmoved⟩
  · rw [attempt, advance, if_neg finished]
    cases read : scanner.skipBlanks.readToken with
    | ok value after =>
        exact (rest_suffix_of_readToken read).trans behindBlanks
    | error error left =>
        rw [eq_of_readToken_error read]
        exact behindBlanks

theorem newLinesAhead_attempt_le (scanner : Scanner) :
    scanner.attempt.newLinesAhead ≤ scanner.newLinesAhead :=
  scanner.rest_attempt_suffix.sublist.count_le '\n'

theorem newLinesAhead_le_of_advance {before after : Scanner}
    (read : before.advance = .ok () after) :
    after.newLinesAhead ≤ before.newLinesAhead := by
  have bound := before.newLinesAhead_attempt_le
  rw [attempt, read] at bound
  exact bound

/-- The end of a line is read together with a newline. -/
theorem newLinesAhead_lt_of_advance {before after : Scanner}
    (read : before.advance = .ok () after)
    (atNewLine : after.lookahead = .newLine) :
    after.newLinesAhead < before.newLinesAhead := by
  have notAtEnd : after.lookahead ≠ .endOfFile := by
    simp [atNewLine]
  have unfinished : before.lookahead ≠ .endOfFile := by
    intro finished
    rw [advance_of_endOfFile finished] at read
    cases read
    exact notAtEnd finished
  obtain ⟨lexeme, shown, shape, _⟩ :=
    exists_standsBefore_of_advance unfinished read notAtEnd
  have written : lexeme.spelling = lexeme.blanks ++ ['\n'] := by
    rw [Lexeme.spelling, shown, atNewLine]
    rfl
  simp only [newLinesAhead, shape, written, List.count_append,
    List.count_singleton_self]
  omega

/-- Where tokens have been passed up to the end of a line, a newline has been
read. -/
theorem newLinesAhead_lt_of_passes {before after : Scanner}
    {tokens : List Token} (passes : Passes before tokens after)
    (something : tokens ≠ []) (atNewLine : after.lookahead = .newLine) :
    after.newLinesAhead < before.newLinesAhead := by
  induction passes with
  | nothing scanner =>
      exact absurd rfl something
  | @token before between after tokens read later inductionHypothesis =>
      cases later with
      | nothing scanner =>
          exact newLinesAhead_lt_of_advance read atNewLine
      | token readNext rest =>
          exact Nat.lt_of_lt_of_le
            (inductionHypothesis (List.cons_ne_nil _ _) atNewLine)
            (newLinesAhead_le_of_advance read)

end Scanner

end NumberedLambda
