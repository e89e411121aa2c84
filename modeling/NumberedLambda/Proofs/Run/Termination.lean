import NumberedLambda.Proofs.Parsing.Consumption
import NumberedLambda.Proofs.Parsing.Depth
import NumberedLambda.Proofs.Run.Output

/-!
# Every run ends

The loop of a run is written here once more with a limit on the number of its
turns and a limit on the depth of the rules, in place of the argument that it
ends. Both limits are given by the text alone: the depth by its length, and the
number of turns by the number of its lines. The mode and the number of allowed
passes have no part in them, since what is made of a term is bounded by the
number of passes itself.
-/

namespace NumberedLambda

namespace Run

/-! ## Runs within limits -/

/-- Show the remaining terms of a parser in a limited number of turns. -/
def continueWithin (depth : Nat) (mode : Mode) (maxSteps : Nat) :
    Nat → Parser → Sink → Option Report
  | 0, _, _ => none
  | turns + 1, parser, sink =>
      match parser.parseWithin depth with
      | none => none
      | some (.error .endOfInput left) => some ⟨sink, left.log, .ok ()⟩
      | some (.error error left) =>
          some ⟨sink, left.log, .error (.parse error)⟩
      | some (.ok term left) =>
          match present mode maxSteps term sink left.log with
          | .error error (full, log) =>
              some ⟨full, log, .error (.transfer error)⟩
          | .ok () (shown, log) =>
              continueWithin depth mode maxSteps turns
                { left with log := log } shown

/-- Run a program within limits. -/
def programWithin (depth turns : Nat) (mode : Mode) (maxSteps : Nat)
    (sink : Sink) (log : Log) (source : String) : Option Report :=
  match Parser.start log source with
  | .error error left => some ⟨sink, left.log, .error (.parse error)⟩
  | .ok () parser => continueWithin depth mode maxSteps turns parser sink

variable {depth turns : Nat} {mode : Mode} {maxSteps : Nat}
  {parser : Parser} {sink : Sink}

/-- A run takes one turn for each term, and one in which it finds that there is
no further term. -/
theorem continueWithin_eq
    (deepEnough : 6 * parser.remaining + 5 < depth)
    (turnsEnough : parser.terms.1.length < turns) :
    continueWithin depth mode maxSteps turns parser sink =
      some (continueFrom mode maxSteps parser sink) := by
  induction turns generalizing parser sink with
  | zero =>
      exact absurd turnsEnough (Nat.not_lt_zero _)
  | succ turns inductionHypothesis =>
      rw [continueWithin, Parser.parseWithin_eq deepEnough]
      cases parsed : parser.parse with
      | error error left =>
          by_cases atEnd : error = .endOfInput
          · subst atEnd
            rw [continueFrom_of_endOfInput parsed]
          · rw [continueFrom_of_error atEnd parsed]
            cases error <;> first | rfl | exact absurd rfl atEnd
      | ok term left =>
          have shorter := Parser.remaining_lt_of_parse parsed
          rw [Parser.terms_of_ok parsed, List.length_cons] at turnsEnough
          cases presented : present mode maxSteps term sink left.log with
          | error error after =>
              rw [continueFrom_of_transfer parsed presented]
              simp only [presented]
          | ok value after =>
              obtain ⟨shown, log⟩ := after
              let next : Parser := { left with log := log }
              have sameTerms : next.terms = left.terms :=
                Parser.terms_eq_of_scanner rfl
              have sameRemaining : next.remaining = left.remaining :=
                rfl
              have nextDeepEnough : 6 * next.remaining + 5 < depth := by
                omega
              have nextTurnsEnough : next.terms.1.length < turns := by
                rw [sameTerms]
                exact Nat.lt_of_succ_lt_succ turnsEnough
              rw [continueFrom_of_ok parsed presented]
              simp only [presented]
              exact inductionHypothesis nextDeepEnough nextTurnsEnough

theorem programWithin_eq {source : String} {log : Log}
    (deepEnough : 6 * source.toList.length + 5 < depth)
    (turnsEnough : newLineCount source + 1 < turns) :
    programWithin depth turns mode maxSteps sink log source =
      some (program mode maxSteps sink log source) := by
  unfold programWithin program
  cases started : Parser.start log source with
  | error error left =>
      rfl
  | ok value parser =>
      have reached : Parser.ReachedFrom source parser :=
        ⟨log, parser, [], started, rfl⟩
      have remaining := reached.remaining_le
      have newLines := reached.newLinesAhead_le
      have terms := parser.length_terms_le
      exact continueWithin_eq (by omega) (by omega)

/-! ## Termination and progress -/

/-- Let a parser be reached from a source text by any calls. It reads a term,
or fails to, without calling its rules any deeper than a multiple of what
remains to be read, which is at most the text. Where it reads a term, it has
passed a token besides the ends of empty lines, less remains, and it stops
where a term can end. Asked for one element after the other, it yields no more
terms than there are lines, then perhaps an error, and then nothing for ever.
And a run over the text ends within limits that the text alone sets, whatever
its mode, its number of allowed passes and its sink are. -/
theorem reading_and_running_end (source : String) :
    (∀ parser, Parser.ReachedFrom source parser →
      parser.remaining ≤ source.toList.length ∧
      (∀ depth, 6 * parser.remaining + 5 < depth →
        parser.parseWithin depth = some parser.parse) ∧
      (∀ term after, parser.parse = .ok term after →
        after.remaining < parser.remaining ∧
        after.lookahead.endsTerm = true ∧
        ∃ tokens, Scanner.Passes parser.scanner tokens after.scanner ∧
          ∃ token ∈ tokens, token ≠ .newLine ∧ token ≠ .endOfFile) ∧
      ∃ terms error, terms.length ≤ newLineCount source + 1 ∧
        ∀ index,
          ((parser.after (List.replicate index .next)).answer .next).1 =
            (Reading.items (terms, error))[index]?) ∧
    ∀ mode maxSteps sink log depth turns,
      6 * source.toList.length + 5 < depth →
      newLineCount source + 1 < turns →
      programWithin depth turns mode maxSteps sink log source =
        some (program mode maxSteps sink log source) := by
  constructor
  · intro parser reached
    refine ⟨reached.remaining_le, fun _ => Parser.parseWithin_eq, ?_, ?_⟩
    · intro term after parsed
      exact ⟨Parser.remaining_lt_of_parse parsed,
        Parser.passes_of_parse parsed⟩
    · obtain ⟨terms, error, bounded, elements⟩ := parser.exists_items_eq
      refine ⟨terms, error, ?_, ?_⟩
      · exact Nat.le_trans bounded
          (Nat.succ_le_succ reached.newLinesAhead_le)
      · intro index
        rw [parser.answer_next_after, elements]
  · intro mode maxSteps sink log depth turns deepEnough turnsEnough
    exact programWithin_eq deepEnough turnsEnough

/-- A parser in front of a line with the name `a`, which a line with a closing
parenthesis follows. -/
def inFrontOfTwoLines : Parser where
  scanner := ⟨['\n', ')'], 1, .identifier "a"⟩
  scopes := .root
  finished := false
  log := .silent

/-- At most three tokens remain to be read of these lines. So the rules stay
within 24 levels, and a run over the lines within three turns. -/
theorem two_lines_end :
    Parser.ReachedFrom "a\n)" inFrontOfTwoLines ∧
      inFrontOfTwoLines.remaining = 3 ∧
      inFrontOfTwoLines.parseWithin 24 = some inFrontOfTwoLines.parse ∧
      ∀ mode maxSteps sink log,
        programWithin 24 3 mode maxSteps sink log "a\n)" =
          some (program mode maxSteps sink log "a\n)") := by
  have begins : Parser.start .silent "a\n)" = .ok () inFrontOfTwoLines := by
    cbv
  have reached : Parser.ReachedFrom "a\n)" inFrontOfTwoLines :=
    ⟨.silent, inFrontOfTwoLines, [], begins, rfl⟩
  have remaining : inFrontOfTwoLines.remaining = 3 := by
    decide
  obtain ⟨reads, runs⟩ := reading_and_running_end "a\n)"
  refine ⟨reached, remaining, ?_, ?_⟩
  · apply (reads _ reached).2.1
    rw [remaining]
    decide
  · intro mode maxSteps sink log
    exact runs mode maxSteps sink log 24 3 (by decide) (by decide)

end Run

end NumberedLambda
