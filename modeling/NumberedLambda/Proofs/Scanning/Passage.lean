import NumberedLambda.Scanner.Stream

/-!
# The tokens that a scanner passes

A scanner that advances leaves its lookahead behind and shows the token after
it. The tokens that are left behind on the way from one scanner to another are
the ones that have been used up; the lookahead at the end has been read but
not used. `Passes` lists them, so what is used up by one rule of the grammar
after another is the concatenation of two such lists.
-/

namespace NumberedLambda

namespace Scanner

/-- The tokens that are passed on the way from one scanner to another. -/
inductive Passes : Scanner → List Token → Scanner → Prop where
  | nothing (scanner : Scanner) : Passes scanner [] scanner
  | token {before between after : Scanner} {tokens : List Token} :
      before.advance = .ok () between → Passes between tokens after →
        Passes before (before.lookahead :: tokens) after

theorem ne_endOfFile_of_ofSymbol? {character : Char} {token : Token}
    (symbol : Token.ofSymbol? character = some token) :
    token ≠ .endOfFile := by
  rintro rfl
  have spelled := Token.spelling_of_ofSymbol? symbol
  cases spelled

theorem lookahead_ne_startOfFile_of_advance
    {before after : Scanner} (read : before.advance = .ok () after) :
    after.lookahead ≠ .startOfFile := by
  unfold advance at read
  split at read
  · rename_i finished
    cases read
    simp [finished]
  · unfold readToken at read
    split at read
    · cases read
      simp
    · split at read
      · rename_i token symbol
        cases read
        intro equality
        have spelled := Token.spelling_of_ofSymbol? symbol
        have atStart : token = .startOfFile := equality
        rw [atStart] at spelled
        cases spelled
      · split at read
        · cases read
          simp
        · cases read

namespace Passes

theorem single {before after : Scanner}
    (read : before.advance = .ok () after) :
    Passes before [before.lookahead] after :=
  .token read (.nothing after)

theorem append {before between after : Scanner}
    {first last : List Token}
    (passFirst : Passes before first between)
    (passLast : Passes between last after) :
    Passes before (first ++ last) after := by
  induction passFirst with
  | nothing scanner =>
      exact passLast
  | token read later inductionHypothesis =>
      exact .token read (inductionHypothesis passLast)

theorem cons_inversion
    {before after : Scanner} {token : Token} {tokens : List Token}
    (passes : Passes before (token :: tokens) after) :
    before.lookahead = token ∧
      ∃ between, before.advance = .ok () between ∧
        Passes between tokens after := by
  cases passes with
  | token read later =>
      exact ⟨rfl, _, read, later⟩

theorem append_inversion
    {before after : Scanner} {first last : List Token}
    (passes : Passes before (first ++ last) after) :
    ∃ between, Passes before first between ∧
      Passes between last after := by
  induction first generalizing before with
  | nil =>
      exact ⟨before, .nothing before, passes⟩
  | cons token tokens inductionHypothesis =>
      obtain ⟨rfl, next, read, later⟩ := passes.cons_inversion
      obtain ⟨between, passFirst, passLast⟩ := inductionHypothesis later
      exact ⟨between, .token read passFirst, passLast⟩

/-- Where something has been passed, the lookahead has been read. -/
theorem lookahead_ne_startOfFile
    {before after : Scanner} {tokens : List Token}
    (passes : Passes before tokens after) (something : tokens ≠ []) :
    after.lookahead ≠ .startOfFile := by
  induction passes with
  | nothing scanner =>
      exact absurd rfl something
  | @token before between after tokens read later inductionHypothesis =>
      cases later with
      | nothing scanner =>
          exact lookahead_ne_startOfFile_of_advance read
      | token readNext rest =>
          exact inductionHypothesis (List.cons_ne_nil _ _)

/-- The tokens that are read one after the other are passed one step later:
each but the last, after the lookahead at the beginning. -/
theorem of_reads
    {before after : Scanner} {tokens passed : List Token} {last : Token}
    (reads : Reads before tokens after)
    (shown : before.lookahead :: tokens = passed ++ [last]) :
    Passes before passed after ∧ after.lookahead = last := by
  induction reads generalizing passed with
  | nothing scanner =>
      cases passed with
      | nil =>
          cases shown
          exact ⟨.nothing scanner, rfl⟩
      | cons token tokens =>
          simp at shown
  | @token before between after tokens read later inductionHypothesis =>
      cases passed with
      | nil =>
          simp at shown
      | cons token others =>
          rw [List.cons_append] at shown
          injection shown with sameToken sameRest
          obtain ⟨passes, atLast⟩ := inductionHypothesis sameRest
          rw [← sameToken]
          exact ⟨.token read passes, atLast⟩

end Passes

end Scanner

end NumberedLambda
