import NumberedLambda.Scanner

/-!
# The tokens that a scanner reads

Reading tokens one after the other without an error leads from one scanner to
another. The lookahead at the end is the last token that was read.
-/

namespace NumberedLambda

namespace Scanner

/-- The tokens that are read on the way from one scanner to another. -/
inductive Reads : Scanner → List Token → Scanner → Prop where
  | nothing (scanner : Scanner) : Reads scanner [] scanner
  | token {before between after : Scanner} {tokens : List Token} :
      before.advance = .ok () between → Reads between tokens after →
        Reads before (between.lookahead :: tokens) after

namespace Reads

theorem append {before between after : Scanner}
    {first last : List Token}
    (readFirst : Reads before first between)
    (readLast : Reads between last after) :
    Reads before (first ++ last) after := by
  induction readFirst with
  | nothing scanner =>
      exact readLast
  | token read later inductionHypothesis =>
      exact .token read (inductionHypothesis readLast)

theorem cons_inversion
    {before after : Scanner} {token : Token} {tokens : List Token}
    (reads : Reads before (token :: tokens) after) :
    ∃ between, before.advance = .ok () between ∧
      between.lookahead = token ∧ Reads between tokens after := by
  cases reads with
  | token read later =>
      exact ⟨_, read, rfl, later⟩

theorem append_inversion
    {before after : Scanner} {first last : List Token}
    (reads : Reads before (first ++ last) after) :
    ∃ between, Reads before first between ∧ Reads between last after := by
  induction first generalizing before with
  | nil =>
      exact ⟨before, .nothing before, reads⟩
  | cons token tokens inductionHypothesis =>
      obtain ⟨next, read, rfl, later⟩ := reads.cons_inversion
      obtain ⟨between, readFirst, readLast⟩ := inductionHypothesis later
      exact ⟨between, .token read readFirst, readLast⟩

/-- At the end of the text the scanner stays there. -/
theorem lookahead_of_endOfFile {before after : Scanner}
    {tokens : List Token} (reads : Reads before tokens after)
    (finished : before.lookahead = .endOfFile) :
    after.lookahead = .endOfFile := by
  induction reads with
  | nothing scanner =>
      exact finished
  | token read later inductionHypothesis =>
      rw [advance_of_endOfFile finished] at read
      cases read
      exact inductionHypothesis finished

/-- Once the end of the text has been read, nothing else is shown. -/
theorem lookahead_of_endOfFile_mem {before after : Scanner}
    {tokens : List Token} (reads : Reads before tokens after)
    (member : .endOfFile ∈ tokens) : after.lookahead = .endOfFile := by
  obtain ⟨first, last, rfl⟩ := List.append_of_mem member
  obtain ⟨between, _, readLast⟩ := reads.append_inversion
  obtain ⟨next, _, atEnd, later⟩ := readLast.cons_inversion
  exact later.lookahead_of_endOfFile atEnd

/-- Reading as many tokens again gives the same tokens and leads to the same
scanner. -/
theorem unique {before firstAfter secondAfter : Scanner}
    {first second : List Token}
    (readFirst : Reads before first firstAfter)
    (readSecond : Reads before second secondAfter)
    (sameLength : first.length = second.length) :
    first = second ∧ firstAfter = secondAfter := by
  induction readFirst generalizing second with
  | nothing scanner =>
      cases readSecond with
      | nothing _ =>
          exact ⟨rfl, rfl⟩
      | token read later =>
          cases sameLength
  | token read later inductionHypothesis =>
      cases readSecond with
      | nothing _ =>
          cases sameLength
      | token readOther laterOther =>
          cases read.symm.trans readOther
          obtain ⟨sameTokens, sameAfter⟩ :=
            inductionHypothesis laterOther (Nat.succ.inj sameLength)
          exact ⟨congrArg _ sameTokens, sameAfter⟩

/-- The tokens in front of the end of the text are determined by the scanner
that they are read from. -/
theorem eq_of_append_endOfFile {before after otherAfter : Scanner}
    {tokens others : List Token}
    (reads : Reads before (tokens ++ [.endOfFile]) after)
    (readsOthers : Reads before (others ++ [.endOfFile]) otherAfter)
    (noEnd : .endOfFile ∉ tokens) (noOtherEnd : .endOfFile ∉ others) :
    tokens = others := by
  induction tokens generalizing before others with
  | nil =>
      cases others with
      | nil =>
          rfl
      | cons other later =>
          obtain ⟨_, read, atEnd, _⟩ := reads.cons_inversion
          obtain ⟨_, readOther, rfl, _⟩ := readsOthers.cons_inversion
          cases read.symm.trans readOther
          rw [atEnd] at noOtherEnd
          exact absurd (List.mem_cons_self ..) noOtherEnd
  | cons token tokens inductionHypothesis =>
      obtain ⟨between, read, rfl, later⟩ := reads.cons_inversion
      cases others with
      | nil =>
          obtain ⟨_, readOther, atEnd, _⟩ := readsOthers.cons_inversion
          cases read.symm.trans readOther
          rw [atEnd] at noEnd
          exact absurd (List.mem_cons_self ..) noEnd
      | cons other others =>
          obtain ⟨_, readOther, rfl, laterOther⟩ :=
            readsOthers.cons_inversion
          cases read.symm.trans readOther
          rw [inductionHypothesis later laterOther
            (fun member => noEnd (List.mem_cons_of_mem _ member))
            (fun member => noOtherEnd (List.mem_cons_of_mem _ member))]

end Reads

/-! ## All tokens -/

/-- The tokens that are still to be read, up to the end of the text or up to
the first character that begins no token. -/
def tokens (scanner : Scanner) : List Token :=
  if _ : scanner.lookahead = .endOfFile then
    []
  else
    match _ : scanner.advance with
    | .ok () after => after.lookahead :: after.tokens
    | .error _ _ => []
termination_by scanner.remaining
decreasing_by exact remaining_lt_of_advance ‹_› ‹_›

theorem tokens_of_endOfFile {scanner : Scanner}
    (finished : scanner.lookahead = .endOfFile) : scanner.tokens = [] := by
  rw [tokens, dif_pos finished]

theorem tokens_of_advance {scanner after : Scanner}
    (unfinished : scanner.lookahead ≠ .endOfFile)
    (read : scanner.advance = .ok () after) :
    scanner.tokens = after.lookahead :: after.tokens := by
  rw [tokens, dif_neg unfinished]
  split <;> rename_i same <;> cases read.symm.trans same
  rfl

theorem tokens_of_advance_error {scanner left : Scanner}
    {error : LexicalError} (failed : scanner.advance = .error error left) :
    scanner.tokens = [] := by
  rw [tokens]
  split
  · rfl
  · split <;> rename_i same <;> cases failed.symm.trans same
    rfl

/-- All tokens are read one after the other, and no other token after them. -/
theorem reads_tokens (scanner : Scanner) :
    ∃ after, Reads scanner scanner.tokens after ∧
      (after.lookahead = .endOfFile ∨
        ∃ error left, after.advance = .error error left) := by
  fun_induction tokens scanner with
  | case1 scanner finished =>
      exact ⟨scanner, .nothing scanner, Or.inl finished⟩
  | case2 scanner unfinished next read inductionHypothesis =>
      obtain ⟨after, reads, stopped⟩ := inductionHypothesis
      exact ⟨after, .token read reads, stopped⟩
  | case3 scanner unfinished error left failed =>
      exact ⟨scanner, .nothing scanner, Or.inr ⟨error, left, failed⟩⟩

/-- The end of the text is read no more than once. -/
theorem count_endOfFile_tokens_le (scanner : Scanner) :
    scanner.tokens.count .endOfFile ≤ 1 := by
  fun_induction tokens scanner with
  | case1 scanner finished =>
      exact Nat.zero_le 1
  | case2 scanner unfinished next read inductionHypothesis =>
      by_cases atEnd : next.lookahead = .endOfFile
      · rw [tokens_of_endOfFile atEnd, atEnd]
        exact Nat.le_refl 1
      · rw [List.count_cons_of_ne atEnd]
        exact inductionHypothesis
  | case3 scanner unfinished error left failed =>
      exact Nat.zero_le 1

end Scanner

end NumberedLambda
