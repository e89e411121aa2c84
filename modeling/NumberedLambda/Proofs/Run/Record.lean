import NumberedLambda.Proofs.Parsing.Obstruction
import NumberedLambda.Proofs.Reduction.Record
import NumberedLambda.Proofs.Run.Iteration

/-!
# The log of a run

A run leaves in its log what it has read and what it has shown. The scanner
records a token when it reads it, the parser records a term when it has read
it, and the evaluation records its passes; a run mixes these events as it goes
on, because it reads only as far as it has to before it shows a term. So what
the log says is stated of a parser in the middle of a run: the tokens that are
recorded and those that are still to be read make up the tokens of the source,
the last recorded token is the lookahead, and every term that has been read has
left its record.
-/

namespace NumberedLambda

namespace Run

/-- The events of the evaluation of a term. -/
def evaluationEvents (mode : Mode) (maxSteps : Nat) (term : Term) :
    List Event :=
  match mode with
  | .normalize => term.normalizationEvents maxSteps
  | _ => []

/-- The events of a run about a term that has been read. -/
def record (mode : Mode) (maxSteps : Nat) (term : Term) : List Event :=
  .parsed term :: evaluationEvents mode maxSteps term

variable {mode : Mode} {maxSteps : Nat}

theorem evaluationEvents_about_terms {term : Term} {event : Event}
    (member : event ∈ evaluationEvents mode maxSteps term) :
    event.scannedToken? = none ∧ event.parsedTerm? = none := by
  cases mode with
  | parseOnly | singleStep =>
      cases member
  | normalize =>
      rcases List.mem_append.mp member with reduced | stopped
      · obtain ⟨index, _, rfl⟩ := List.mem_map.mp reduced
        exact ⟨rfl, rfl⟩
      · split at stopped
        · cases stopped
        · rw [List.mem_singleton.mp stopped]
          exact ⟨rfl, rfl⟩

theorem record_about_terms {term : Term} {event : Event}
    (member : event ∈ record mode maxSteps term) :
    event.scannedToken? = none := by
  rcases List.mem_cons.mp member with rfl | evaluated
  · rfl
  · exact (evaluationEvents_about_terms evaluated).1

theorem parsedTerms_record (term : Term) :
    (record mode maxSteps term).filterMap Event.parsedTerm? = [term] := by
  have noneParsed : (evaluationEvents mode maxSteps term).filterMap
      Event.parsedTerm? = [] :=
    List.filterMap_eq_nil_iff.mpr fun _ member =>
      (evaluationEvents_about_terms member).2
  simp only [record, List.filterMap_cons, Event.parsedTerm?, noneParsed]

theorem continues_evaluation {log : Log} (term : Term)
    (complete : log.threshold = some .trace) :
    log.Continues (evaluationEvents mode maxSteps term)
      (evaluation mode maxSteps term log).2 := by
  cases mode with
  | parseOnly | singleStep =>
      exact .nothing complete
  | normalize =>
      exact term.continues_normalizeLogged maxSteps complete

/-- Reading a term and evaluating it leaves the record of the term. -/
theorem continues_record {log : Log} (term : Term)
    (complete : log.threshold = some .trace) :
    log.Continues (record mode maxSteps term)
      (evaluation mode maxSteps term (log.add (.parsed term))).2 := by
  have parsed := (Log.Continues.nothing complete).add (.parsed term)
  exact parsed.trans (continues_evaluation term parsed.complete)

end Run

/-! ## Reading -/

namespace Parser

/-- What a log that keeps everything says of a parser: the recorded tokens and
those that are still to be read are `tokens`, the last recorded one is the
lookahead, and the events about terms are `events`. -/
structure Recorded (tokens : List Token) (events : List Event)
    (parser : Parser) : Prop where
  complete : parser.log.threshold = some .trace
  tokens_eq : parser.log.scannedTokens ++ parser.scanner.tokens = tokens
  lookahead_eq :
    parser.log.scannedTokens.getLastD .startOfFile = parser.lookahead
  termEvents_eq : parser.log.termEvents = events

variable {tokens : List Token} {events : List Event} {parser : Parser}

/-- Every token is recorded when it is read, and none of them twice. -/
theorem keptByReading_recorded : KeptByReading (Recorded tokens events) where
  advance := by
    intro parser recorded
    unfold Parser.advance
    split
    · rename_i scanner read
      by_cases atEnd : parser.lookahead = .endOfFile
      · cases (Scanner.advance_of_endOfFile atEnd).symm.trans read
        rw [if_pos atEnd]
        exact recorded
      · have continues := (Log.Continues.nothing recorded.complete).add
          (.scanned scanner.lookahead)
        have scanned := continues.scannedTokens_eq
        have unread := Scanner.tokens_of_advance atEnd read
        rw [if_neg atEnd]
        exact {
          complete := continues.complete
          tokens_eq := by
            rw [← recorded.tokens_eq, unread]
            simp [Answer.parser, scanned, Event.scannedToken?]
          lookahead_eq := by
            simp [Answer.parser, scanned, Event.scannedToken?, lookahead]
          termEvents_eq := by
            rw [← recorded.termEvents_eq]
            simp [Answer.parser, continues.termEvents_eq,
              Event.scannedToken?] }
    · rename_i error left failed
      have obstructed := Scanner.obstructed_of_advance failed
      exact {
        complete := recorded.complete
        tokens_eq := by
          rw [← recorded.tokens_eq, Scanner.tokens_of_advance_error failed]
          exact congrArg _ (Scanner.tokens_of_advance_error obstructed)
        lookahead_eq :=
          recorded.lookahead_eq.trans
            (Scanner.lookahead_of_advance_error failed).symm
        termEvents_eq := recorded.termEvents_eq }
  scopes := fun _ recorded =>
    ⟨recorded.complete, recorded.tokens_eq, recorded.lookahead_eq,
      recorded.termEvents_eq⟩

/-- A term that has been read and shown leaves its record, which holds no
tokens. -/
theorem Recorded.shown (recorded : Recorded tokens events parser)
    (mode : Mode) (maxSteps : Nat) (term : Term) :
    Recorded tokens (events ++ Run.record mode maxSteps term)
      { parser with
        log := (Run.evaluation mode maxSteps term
          (parser.log.add (.parsed term))).2 } := by
  have continues : parser.log.Continues (Run.record mode maxSteps term)
      (Run.evaluation mode maxSteps term
        (parser.log.add (.parsed term))).2 :=
    Run.continues_record term recorded.complete
  have noTokens : (Run.record mode maxSteps term).filterMap
      Event.scannedToken? = [] :=
    List.filterMap_eq_nil_iff.mpr fun _ => Run.record_about_terms
  have aboutTerms : (Run.record mode maxSteps term).filter
      (fun event => event.scannedToken?.isNone) =
        Run.record mode maxSteps term :=
    List.filter_eq_self.mpr fun _ member =>
      Option.isNone_iff_eq_none.mpr (Run.record_about_terms member)
  have scanned := continues.scannedTokens_eq
  rw [noTokens, List.append_nil] at scanned
  exact {
    complete := continues.complete
    tokens_eq := by
      rw [← recorded.tokens_eq]
      exact congrArg (· ++ _) scanned
    lookahead_eq := by
      rw [scanned]
      exact recorded.lookahead_eq
    termEvents_eq := by
      rw [continues.termEvents_eq, aboutTerms, recorded.termEvents_eq] }

/-- Behind the first token, the last recorded token is the lookahead. -/
theorem Recorded.getLast?_scannedTokens
    (recorded : Recorded tokens events parser)
    (begun : parser.lookahead ≠ .startOfFile) :
    parser.log.scannedTokens.getLast? = some parser.lookahead := by
  have shown := recorded.lookahead_eq
  rw [List.getLastD_eq_getLast?] at shown
  cases ends : parser.log.scannedTokens.getLast? with
  | none =>
      rw [ends] at shown
      exact absurd shown.symm begun
  | some token =>
      rw [ends] at shown
      exact congrArg some shown

/-- At the end of the text all tokens have been recorded. -/
theorem Recorded.scannedTokens_of_endOfFile
    (recorded : Recorded tokens events parser)
    (atEnd : parser.lookahead = .endOfFile) :
    parser.log.scannedTokens = tokens := by
  rw [← recorded.tokens_eq, Scanner.tokens_of_endOfFile atEnd,
    List.append_nil]

/-! ## Attempts to read a term -/

variable {first second left : Parser}

theorem lookahead_of_parse_endOfInput
    (parsed : parser.parse = .error .endOfInput left) :
    left.lookahead = .endOfFile := by
  cases parsesAlike (Scanner.GoesOn.refl parser.scanner) with
  | term _ otherParsed _ =>
      cases parsed.symm.trans otherParsed
  | error error noEnd _ otherParsed _ =>
      cases parsed.symm.trans otherParsed
      exact absurd rfl noEnd
  | nothing _ otherParsed atEnd _ =>
      cases parsed.symm.trans otherParsed
      exact atEnd

theorem answer_parse_snd (parser : Parser) :
    (parser.answer .parse).2 = parser.parse.parser := by
  cases parsed : parser.parse <;> simp only [answer, parsed, Answer.parser]

/-- Parsers that stand alike stand alike after an attempt to read a term. -/
theorem goesOn_parse
    (goesOn : Scanner.GoesOn none first.scanner second.scanner) :
    Scanner.GoesOn none first.parse.parser.scanner
      second.parse.parser.scanner := by
  cases parsesAlike goesOn with
  | term parsedFirst parsedSecond goesOnAfter
  | error _ _ parsedFirst parsedSecond goesOnAfter =>
      rw [parsedFirst, parsedSecond]
      exact goesOnAfter
  | @nothing firstEnd _ parsedFirst parsedSecond atEnd goesOnEnd =>
      have firstAtEnd : firstEnd.lookahead = .endOfFile :=
        goesOnEnd.lookahead_eq.trans ((Token.followedBy_none _).trans atEnd)
      rw [parsedFirst, parse_of_endOfFile firstAtEnd, parsedSecond]
      exact goesOnEnd

end Parser

/-! ## The course of a run -/

namespace Run

/-- The course of a run whose output is taken: terms are read and shown, one
after the other, until no further term can be read. -/
inductive Course (mode : Mode) (maxSteps : Nat) :
    Parser → List Term → Parser → Prop where
  | stops {parser left : Parser} {error : ParseError} :
      parser.parse = .error error left → Course mode maxSteps parser [] left
  | shows {parser left last : Parser} {term : Term} {later : List Term} :
      parser.parse = .ok term left →
      Course mode maxSteps
        { left with log := (evaluation mode maxSteps term left.log).2 }
        later last →
      Course mode maxSteps parser (term :: later) last

/-- A run with an endless sink takes its course, and it succeeds only at the
end of the text. -/
theorem exists_course (mode : Mode) (maxSteps : Nat) (parser : Parser)
    {sink : Sink} (endless : sink.capacity = none) :
    ∃ terms last, Course mode maxSteps parser terms last ∧
      (continueFrom mode maxSteps parser sink).log = last.log ∧
      ((continueFrom mode maxSteps parser sink).result = .ok () →
        last.lookahead = .endOfFile) := by
  induction measured : parser.remaining using Nat.strongRecOn
    generalizing parser sink with
  | ind size inductionHypothesis =>
      subst measured
      cases parsed : parser.parse with
      | ok term left =>
          rcases present_cases mode maxSteps term sink left.log with
            ⟨shown, presented, takes⟩ |
            ⟨_, _, _, limit, limited, _⟩
          · obtain ⟨later, last, course, sameLog, ends⟩ :=
              inductionHypothesis _ (Parser.remaining_lt_of_parse parsed)
                { left with
                  log := (evaluation mode maxSteps term left.log).2 }
                (takes.capacity_eq.trans endless) rfl
            rw [continueFrom_of_ok parsed presented]
            exact ⟨term :: later, last, .shows parsed course, sameLog, ends⟩
          · cases endless.symm.trans limited
      | error error left =>
          refine ⟨[], left, .stops parsed, ?_⟩
          by_cases atEnd : error = .endOfInput
          · subst atEnd
            rw [continueFrom_of_endOfInput parsed]
            exact ⟨rfl, fun _ => Parser.lookahead_of_parse_endOfInput parsed⟩
          · rw [continueFrom_of_error atEnd parsed]
            exact ⟨rfl, nofun⟩

namespace Course

variable {mode : Mode} {maxSteps : Nat} {parser other last : Parser}
  {terms : List Term}

/-- The terms that are shown are the terms of the parser. -/
theorem terms_eq (course : Course mode maxSteps parser terms last) :
    parser.terms.1 = terms := by
  induction course with
  | @stops parser left error parsed =>
      by_cases atEnd : error = .endOfInput
      · subst atEnd
        rw [Parser.terms_of_endOfInput parsed]
      · rw [Parser.terms_of_error atEnd parsed]
  | @shows parser left last term later parsed course inductionHypothesis =>
      have sameTerms : left.terms.1 = later := by
        rw [← inductionHypothesis]
        exact congrArg Prod.fst (Parser.terms_eq_of_scanner rfl)
      rw [Parser.terms_of_ok parsed, sameTerms]

/-- A run attempts to read a term once more than it succeeds, and its parser
stands as these attempts leave it. -/
theorem goesOn (course : Course mode maxSteps parser terms last)
    (alike : Scanner.GoesOn none parser.scanner other.scanner) :
    Scanner.GoesOn none last.scanner
      (other.after (List.replicate (terms.length + 1) .parse)).scanner := by
  induction course generalizing other with
  | stops parsed =>
      have attempted := Parser.goesOn_parse alike
      rw [parsed, ← Parser.answer_parse_snd] at attempted
      exact attempted
  | shows parsed course inductionHypothesis =>
      have attempted := Parser.goesOn_parse alike
      rw [parsed, ← Parser.answer_parse_snd] at attempted
      exact inductionHypothesis attempted

/-- At the end of a run its log tells all that has been read and shown. -/
theorem recorded {tokens : List Token} {events : List Event}
    (course : Course mode maxSteps parser terms last)
    (start : parser.Recorded tokens events) :
    last.Recorded tokens (events ++ terms.flatMap (record mode maxSteps)) := by
  induction course generalizing events with
  | stops parsed =>
      rcases Parser.keptByReading_recorded.parse_cases start with
        ⟨_, _, otherParsed, leftRecorded⟩ | ⟨_, _, otherParsed, _⟩
      · cases parsed.symm.trans otherParsed
        rw [List.flatMap_nil, List.append_nil]
        exact leftRecorded
      · cases parsed.symm.trans otherParsed
  | shows parsed course inductionHypothesis =>
      rcases Parser.keptByReading_recorded.parse_cases start with
        ⟨_, _, otherParsed, _⟩ | ⟨_, _, otherParsed, leftRecorded⟩
      · cases parsed.symm.trans otherParsed
      · cases parsed.symm.trans otherParsed
        rw [List.flatMap_cons, ← List.append_assoc]
        exact inductionHypothesis (leftRecorded.shown mode maxSteps _)

end Course

/-! ## Whole runs -/

variable {mode : Mode} {maxSteps : Nat} {source : String}

/-- Where not even a first token can be read, nothing is recorded. -/
theorem log_of_start_error {error : ParseError} {left : Parser}
    (failed : Parser.start (.keeping .trace) source = .error error left) :
    (program mode maxSteps .unlimited (.keeping .trace) source).log =
      .keeping .trace := by
  rw [program, failed]
  unfold Parser.start Parser.advance at failed
  split at failed <;> cases failed
  rfl

theorem result_of_start_error {error : ParseError} {left : Parser}
    (failed : Parser.start (.keeping .trace) source = .error error left) :
    (program mode maxSteps .unlimited (.keeping .trace) source).result ≠
      .ok () := by
  rw [program, failed]
  intro succeeded
  cases succeeded

/-- At the end of a run from a parser that has read its first token, the
parser has recorded what has been read and shown. -/
theorem exists_recorded (mode : Mode) (maxSteps : Nat) {started : Parser}
    (begins : Parser.start (.keeping .trace) source = .ok () started) :
    ∃ last : Parser,
      last.Recorded (Scanner.ofSource source).tokens
        ((sourceTerms source).1.flatMap (record mode maxSteps)) ∧
      last.lookahead ≠ .startOfFile ∧
      Scanner.GoesOn none last.scanner (started.after (List.replicate
        ((sourceTerms source).1.length + 1) .parse)).scanner ∧
      (program mode maxSteps .unlimited (.keeping .trace) source).log =
        last.log ∧
      ((program mode maxSteps .unlimited (.keeping .trace) source).result =
        .ok () → last.lookahead = .endOfFile) := by
  have inFront : Parser.Recorded (Scanner.ofSource source).tokens []
      ⟨.ofSource source, .root, false, .keeping .trace⟩ :=
    ⟨rfl, rfl, rfl, rfl⟩
  have begun : started.Recorded (Scanner.ofSource source).tokens [] :=
    Parser.keptByReading_recorded.advance_eq begins inFront
  have endless : Sink.unlimited.capacity = none := rfl
  obtain ⟨terms, last, course, sameLog, ends⟩ :=
    exists_course mode maxSteps started endless
  have sameTerms : (sourceTerms source).1 = terms := by
    rw [← sourceTerms_eq (.keeping .trace) source, begins, Answer.terms_ok,
      course.terms_eq]
  have alike := course.goesOn (Scanner.GoesOn.refl started.scanner)
  have reached : Parser.ReachedFrom source
      (started.after (List.replicate (terms.length + 1) .parse)) :=
    ⟨_, started, _, begins, rfl⟩
  have shown := alike.lookahead_eq.trans (Token.followedBy_none _)
  rw [program, begins, sameTerms]
  exact ⟨last, course.recorded begun, shown.trans_ne reached.begun, alike,
    sameLog, ends⟩

theorem termEvents_program (mode : Mode) (maxSteps : Nat) (source : String) :
    (program mode maxSteps .unlimited (.keeping .trace)
        source).log.termEvents =
      (sourceTerms source).1.flatMap (record mode maxSteps) := by
  cases begins : Parser.start (.keeping .trace) source with
  | error error left =>
      rw [log_of_start_error begins, ← sourceTerms_eq (.keeping .trace) source,
        begins]
      rfl
  | ok value started =>
      obtain ⟨last, recorded, _, _, sameLog, _⟩ :=
        exists_recorded mode maxSteps begins
      rw [sameLog, recorded.termEvents_eq]

theorem parsedTerms_program (mode : Mode) (maxSteps : Nat) (source : String) :
    (program mode maxSteps .unlimited (.keeping .trace)
        source).log.parsedTerms = (sourceTerms source).1 := by
  rw [Log.parsedTerms_eq, termEvents_program, List.filterMap_flatMap]
  simp only [parsedTerms_record]
  exact List.flatMap_singleton' _

/-- The recorded tokens are those up to the lookahead with which the run
ends. -/
theorem scannedTokens_of_start {started : Parser}
    (begins : Parser.start (.keeping .trace) source = .ok () started) :
    let tokens := (program mode maxSteps .unlimited (.keeping .trace)
      source).log.scannedTokens
    let last := started.after
      (List.replicate ((sourceTerms source).1.length + 1) .parse)
    tokens ++ last.scanner.tokens = (Scanner.ofSource source).tokens ∧
      tokens.getLast? = some last.lookahead := by
  obtain ⟨last, recorded, begun, alike, sameLog, _⟩ :=
    exists_recorded mode maxSteps begins
  have sameLookahead := alike.lookahead_eq
  rw [Token.followedBy_none] at sameLookahead
  rw [sameLog]
  refine ⟨?_, ?_⟩
  · rw [← alike.tokens_eq]
    exact recorded.tokens_eq
  · rw [Parser.lookahead, ← sameLookahead]
    exact recorded.getLast?_scannedTokens begun

/-- A run that succeeds has recorded all tokens, the end of the text among
them. -/
theorem scannedTokens_of_succeeded
    (succeeded : (program mode maxSteps .unlimited (.keeping .trace)
      source).result = .ok ()) :
    let tokens := (program mode maxSteps .unlimited (.keeping .trace)
      source).log.scannedTokens
    tokens = (Scanner.ofSource source).tokens ∧ .endOfFile ∈ tokens := by
  cases begins : Parser.start (.keeping .trace) source with
  | error error left =>
      exact absurd succeeded (result_of_start_error begins)
  | ok value started =>
      obtain ⟨last, recorded, begun, _, sameLog, ends⟩ :=
        exists_recorded mode maxSteps begins
      have atEnd := ends succeeded
      have final := recorded.getLast?_scannedTokens begun
      rw [atEnd] at final
      rw [sameLog]
      exact ⟨recorded.scannedTokens_of_endOfFile atEnd,
        List.mem_of_getLast? final⟩

/-- The log of a run into an endless sink, with all events kept, agrees with
the program and with the output. The recorded tokens are tokens of the program
from the first one up to the lookahead of the parser after its last attempt to
read a term; they are all of them, with one end of the text, if the run
succeeds, and none if not even the first token can be read. The lines that are
written are those that are prescribed for the terms that were recorded as
parsed. Between one of these events and the next, the events about terms are
those of the evaluation of the term: in normalization the numbered passes, each
with its term, and then the end of the budget where the term still changes, so
that the last term that is shown is the normalized one; in the other modes
none. -/
theorem log_agrees_with_program_and_output (mode : Mode) (maxSteps : Nat)
    (source : String) :
    let run := program mode maxSteps .unlimited (.keeping .trace) source
    let tokens := run.log.scannedTokens
    let terms := run.log.parsedTerms
    (match Parser.start (.keeping .trace) source with
      | .error _ _ => tokens = []
      | .ok () started =>
          let last := started.after (List.replicate (terms.length + 1) .parse)
          tokens ++ last.scanner.tokens = (Scanner.ofSource source).tokens ∧
            tokens.getLast? = some last.lookahead) ∧
    (run.result = .ok () →
      tokens = (Scanner.ofSource source).tokens ∧
        tokens.count .endOfFile = 1) ∧
    run.sink.bytes = (textOf (terms.flatMap
      (prescribedLines mode maxSteps))).toUTF8.data.toList ∧
    run.log.termEvents = terms.flatMap (record mode maxSteps) ∧
    ∀ term,
      ((record .normalize maxSteps term).filterMap
        Event.shownTerm?).getLast? = some (term.normalize maxSteps).term := by
  intro run tokens terms
  have sameTerms : terms = (sourceTerms source).1 :=
    parsedTerms_program mode maxSteps source
  refine ⟨?_, ?_, ?_, ?_, ?_⟩
  · split
    · rename_i begins
      have nothing : tokens = (Log.keeping .trace).scannedTokens :=
        congrArg Log.scannedTokens (log_of_start_error begins)
      exact nothing
    · rename_i started begins
      rw [sameTerms]
      exact scannedTokens_of_start begins
  · intro succeeded
    obtain ⟨sameTokens, ended⟩ := scannedTokens_of_succeeded succeeded
    have once := (Scanner.ofSource source).count_endOfFile_tokens_le
    rw [← sameTokens] at once
    exact ⟨sameTokens, Nat.le_antisymm once (List.one_le_count_iff.mpr ended)⟩
  · rw [sameTerms, ← flatMap_outputBytes]
    exact (program_unlimited mode maxSteps (.keeping .trace) source).1
  · rw [sameTerms]
    exact termEvents_program mode maxSteps source
  · intro term
    exact term.getLast?_shownTerms_normalizationEvents maxSteps

end Run

end NumberedLambda
