import Mathlib.Data.List.TakeWhile
import NumberedLambda.Proofs.Scanning.Passage

/-!
# The last line of a text

A scanner shows the end of the text as soon as only blanks are left. Where no
newline is left either, a scanner stands on the last line and stays there.
-/

namespace NumberedLambda

namespace Scanner

open Character

/-! ## The end of a text -/

theorem exists_advance_of_isBlank {scanner : Scanner}
    (unfinished : scanner.lookahead ≠ .endOfFile)
    (blank : ∀ character ∈ scanner.rest, isBlank character = true) :
    ∃ after, scanner.advance = .ok () after ∧
      after.lookahead = .endOfFile := by
  have nothingLeft : scanner.skipBlanks.rest = [] :=
    List.dropWhile_eq_nil_iff.mpr blank
  rw [advance, if_neg unfinished, readToken, nothingLeft]
  exact ⟨_, rfl, rfl⟩

theorem isBlank_of_lookahead_eq_endOfFile {before after : Scanner}
    (unfinished : before.lookahead ≠ .endOfFile)
    (read : before.advance = .ok () after)
    (atEnd : after.lookahead = .endOfFile) :
    ∀ character ∈ before.rest, isBlank character = true := by
  rw [advance, if_neg unfinished] at read
  have nothingLeft : before.skipBlanks.rest = [] := by
    unfold readToken at read
    split at read
    · assumption
    · split at read
      · rename_i token symbol
        cases read
        exact absurd atEnd (ne_endOfFile_of_ofSymbol? symbol)
      · split at read <;> cases read
        cases atEnd
  exact List.dropWhile_eq_nil_iff.mp nothingLeft

/-! ## The last line -/

/-- No newline is shown or left to be read. -/
structure OnLastLine (scanner : Scanner) : Prop where
  lookahead_ne : scanner.lookahead ≠ .newLine
  not_mem_rest : '\n' ∉ scanner.rest

theorem onLastLine_of_advance {before after : Scanner}
    (read : before.advance = .ok () after)
    (unfinished : before.lookahead ≠ .endOfFile)
    (noNewLine : '\n' ∉ before.rest) : after.OnLastLine := by
  rw [advance, if_neg unfinished] at read
  have noneLeft : '\n' ∉ before.skipBlanks.rest := fun member =>
    noNewLine (List.dropWhile_subset _ member)
  unfold readToken at read
  split at read
  · cases read
    exact ⟨Token.noConfusion, noneLeft⟩
  · rename_i character later shape
    rw [shape] at noneLeft
    split at read
    · rename_i token symbol
      cases read
      refine ⟨?_, fun member => noneLeft (List.mem_cons_of_mem _ member)⟩
      intro atNewLine
      have atNewLine : token = .newLine := atNewLine
      have spelled := Token.spelling_of_ofSymbol? symbol
      rw [atNewLine] at spelled
      cases spelled
      exact noneLeft (List.mem_cons_self ..)
    · split at read
      · cases read
        rw [← shape] at noneLeft
        exact ⟨Token.noConfusion, fun member =>
          noneLeft (List.dropWhile_subset _ member)⟩
      · cases read

theorem OnLastLine.advance {before after : Scanner}
    (onLastLine : before.OnLastLine)
    (read : before.advance = .ok () after) : after.OnLastLine := by
  by_cases atEnd : before.lookahead = .endOfFile
  · rw [advance_of_endOfFile atEnd] at read
    cases read
    exact onLastLine
  · exact onLastLine_of_advance read atEnd onLastLine.not_mem_rest

theorem OnLastLine.passes {before after : Scanner} {tokens : List Token}
    (onLastLine : before.OnLastLine)
    (passes : Passes before tokens after) : after.OnLastLine := by
  induction passes with
  | nothing scanner =>
      exact onLastLine
  | token read later inductionHypothesis =>
      exact inductionHypothesis (onLastLine.advance read)

end Scanner

end NumberedLambda
