import NumberedLambda.Proofs.Parsing.Acceptance
import NumberedLambda.Proofs.Parsing.Continuation
import NumberedLambda.Proofs.Scanning.LastLine

/-!
# The terms of several lines

What is read of a text, its terms up to the first error, is put together from
what is read of its lines when each of them is a text of its own. The terms of
a line and of the text behind it are the terms of both; an error in the line
ends the terms of the whole, and the newline is found in it where the line
alone has its end.
-/

namespace NumberedLambda

open Character

variable {following : Option (List Char)}

namespace Parser

variable {longer shorter parser : Parser}

/-! ## Reading one term -/

theorem skipNewLines_alike
    (goesOn : Scanner.GoesOn following longer.scanner shorter.scanner) :
    (∃ longerReady shorterReady : Parser,
      longer.skipNewLines = longerReady.skipNewLines ∧
      shorter.skipNewLines = .ok () shorterReady ∧
      shorterReady.lookahead ≠ .newLine ∧
      Scanner.GoesOn following longerReady.scanner shorterReady.scanner) ∨
    ∃ error, ∃ longerLeft shorterLeft : Parser,
      longer.skipNewLines = .error (.lexical error) longerLeft ∧
      shorter.skipNewLines = .error (.lexical error) shorterLeft ∧
      Scanner.GoesOn following longerLeft.scanner shorterLeft.scanner := by
  fun_induction skipNewLines shorter generalizing longer with
  | case1 shorter atNewLine after read inductionHypothesis =>
      have unfinished := unfinished_of_eq atNewLine (by simp)
      have shown : longer.lookahead = shorter.lookahead :=
        goesOn.lookahead_eq_of_ne unfinished
      rw [skipNewLines_of_newLine (shown.trans atNewLine)]
      cases advancesAlike_of_goesOn goesOn unfinished with
      | token longerRead shorterRead goesOnAfter =>
          cases read.symm.trans shorterRead
          rw [longerRead, Answer.andThen_ok]
          exact inductionHypothesis goesOnAfter
      | error error longerRead shorterRead rest =>
          cases read.symm.trans shorterRead
  | case2 shorter atNewLine error left read =>
      have unfinished := unfinished_of_eq atNewLine (by simp)
      have shown : longer.lookahead = shorter.lookahead :=
        goesOn.lookahead_eq_of_ne unfinished
      rw [skipNewLines_of_newLine (shown.trans atNewLine)]
      cases advancesAlike_of_goesOn goesOn unfinished with
      | token longerRead shorterRead goesOnAfter =>
          cases read.symm.trans shorterRead
      | error error longerRead shorterRead rest =>
          cases read.symm.trans shorterRead
          rw [longerRead, Answer.andThen_error]
          refine Or.inr ⟨error, _, _, rfl, rfl, ?_⟩
          exact goesOn.of_rest unfinished
            (lookahead_of_advance_error longerRead)
            (lookahead_of_advance_error shorterRead) rest
  | case3 shorter otherToken =>
      exact Or.inl ⟨longer, shorter, rfl, rfl, otherToken, goesOn⟩

/-- A parser has passed the text in front of `following` and shows what ends
it. -/
structure StandsBefore (following : Option (List Char))
    (parser : Parser) : Prop where
  lookahead_eq : parser.lookahead = Token.endOfFile.followedBy following
  rest_eq : ∀ text, following = some text → parser.scanner.rest = text

theorem standsBefore_of_goesOn
    (goesOn : Scanner.GoesOn following longer.scanner shorter.scanner)
    (atEnd : shorter.lookahead = .endOfFile) :
    StandsBefore following longer where
  lookahead_eq := by
    rw [← atEnd]
    exact goesOn.lookahead_eq
  rest_eq := goesOn.rest_at_end atEnd

/-- What two parsers that stand alike read: the same term, an error before the
end of the shorter text, or nothing up to that end, where the longer text
goes on. In each case they stand alike afterwards. -/
inductive ParsesAlike (following : Option (List Char))
    (longer shorter : Parser) : Prop where
  | term {term : Term} {longerAfter shorterAfter : Parser} :
      longer.parse = .ok term longerAfter →
      shorter.parse = .ok term shorterAfter →
      Scanner.GoesOn following longerAfter.scanner shorterAfter.scanner →
      ParsesAlike following longer shorter
  | error (error : ParseError) {longerLeft shorterLeft : Parser} :
      error ≠ .endOfInput →
      longer.parse = .error (error.followedBy following) longerLeft →
      shorter.parse = .error error shorterLeft →
      Scanner.GoesOn following longerLeft.scanner shorterLeft.scanner →
      ParsesAlike following longer shorter
  | nothing {longerEnd shorterEnd : Parser} :
      longer.parse = longerEnd.parse →
      shorter.parse = .error .endOfInput shorterEnd →
      shorterEnd.lookahead = .endOfFile →
      Scanner.GoesOn following longerEnd.scanner shorterEnd.scanner →
      ParsesAlike following longer shorter

theorem parse_eq_term (otherToken : parser.lookahead ≠ .newLine)
    (unfinished : parser.lookahead ≠ .endOfFile) :
    parser.parse = parser.term := by
  rw [parse, skipNewLines_of_ne otherToken, Answer.andThen_ok,
    if_neg unfinished]

theorem parse_of_skipNewLines {ready : Parser}
    (skipped : parser.skipNewLines = ready.skipNewLines) :
    parser.parse = ready.parse := by
  rw [parse, parse, skipped]

theorem parse_of_skipNewLines_error {error : ParseError} {left : Parser}
    (skipped : parser.skipNewLines = .error error left) :
    parser.parse = .error error left := by
  rw [parse, skipped, Answer.andThen_error]

theorem parsesAlike
    (goesOn : Scanner.GoesOn following longer.scanner shorter.scanner) :
    ParsesAlike following longer shorter := by
  rcases skipNewLines_alike goesOn with
    ⟨longerReady, ready, longerSkipped, skipped, otherToken, goesOnReady⟩ |
    ⟨error, longerLeft, left, longerSkipped, skipped, goesOnLeft⟩
  · have sameSkipped : shorter.skipNewLines = ready.skipNewLines :=
      skipped.trans (skipNewLines_of_ne otherToken).symm
    have shorterParse := parse_of_skipNewLines sameSkipped
    have longerParse := parse_of_skipNewLines longerSkipped
    by_cases atEnd : ready.lookahead = .endOfFile
    · exact .nothing longerParse
        (shorterParse.trans (parse_of_endOfFile atEnd)) atEnd goesOnReady
    · have shown : longerReady.lookahead = ready.lookahead :=
        goesOnReady.lookahead_eq_of_ne atEnd
      rw [← shown] at otherToken
      rw [parse_eq_term otherToken (shown ▸ atEnd)] at longerParse
      rw [parse_eq_term (shown ▸ otherToken) atEnd] at shorterParse
      have answers := goesOn_term goesOnReady
      rw [← shorterParse, ← longerParse] at answers
      generalize longerRead : longer.parse = longerAnswer at answers
      generalize shorterRead : shorter.parse = shorterAnswer at answers
      cases answers with
      | value term goesOnAfter =>
          exact .term longerRead shorterRead goesOnAfter.scanner
      | error error noEnd goesOnLeft =>
          exact .error error noEnd longerRead shorterRead goesOnLeft.scanner
  · exact .error (.lexical error) nofun
      (parse_of_skipNewLines_error longerSkipped)
      (parse_of_skipNewLines_error skipped) goesOnLeft

/-! ## Reading all terms -/

theorem terms_of_ok {term : Term} {after : Parser}
    (parsed : parser.parse = .ok term after) :
    parser.terms = (term :: after.terms.1, after.terms.2) := by
  rw [terms]
  split <;> rename_i read <;> cases parsed.symm.trans read
  rfl

theorem terms_of_endOfInput {left : Parser}
    (parsed : parser.parse = .error .endOfInput left) :
    parser.terms = ([], none) := by
  rw [terms]
  split
  · rename_i read
    cases parsed.symm.trans read
  · rfl
  · rename_i error left noEnd read
    cases parsed.symm.trans read
    exact absurd rfl noEnd

theorem terms_of_error {error : ParseError} {left : Parser}
    (noEnd : error ≠ .endOfInput)
    (parsed : parser.parse = .error error left) :
    parser.terms = ([], some error) := by
  rw [terms]
  split <;> rename_i read <;> cases parsed.symm.trans read
  · exact absurd rfl noEnd
  · rfl

theorem terms_of_endOfFile (atEnd : parser.lookahead = .endOfFile) :
    parser.terms = ([], none) :=
  terms_of_endOfInput (parse_of_endOfFile atEnd)

theorem terms_congr {other : Parser} (same : parser.parse = other.parse) :
    parser.terms = other.terms := by
  rw [terms, terms]
  split <;> rename_i read <;> rw [same] at read <;> split <;>
    rename_i otherRead <;> cases read.symm.trans otherRead
  all_goals first | rfl | contradiction

/-- The terms of two parsers that stand alike are the same if the shorter text
ends with an error. Otherwise those of the longer text go on with what is read
behind the shorter one. -/
theorem terms_alike
    (goesOn : Scanner.GoesOn following longer.scanner shorter.scanner) :
    (∃ error, shorter.terms.2 = some error ∧
      longer.terms =
        (shorter.terms.1, some (error.followedBy following))) ∨
    (shorter.terms.2 = none ∧ ∃ longerEnd : Parser,
      StandsBefore following longerEnd ∧
      longer.terms =
        (shorter.terms.1 ++ longerEnd.terms.1, longerEnd.terms.2)) := by
  induction measured : shorter.remaining using Nat.strongRecOn
    generalizing longer shorter with
  | ind size inductionHypothesis =>
      subst measured
      cases parsesAlike goesOn with
      | @term term longerAfter shorterAfter longerParsed parsed goesOnAfter =>
          rw [terms_of_ok longerParsed, terms_of_ok parsed]
          rcases inductionHypothesis _ (remaining_lt_of_parse parsed)
              goesOnAfter rfl with
            ⟨error, failed, sameTerms⟩ |
            ⟨succeeded, longerEnd, atEnd, sameTerms⟩
          · exact Or.inl ⟨error, failed, by rw [sameTerms]⟩
          · exact Or.inr ⟨succeeded, longerEnd, atEnd,
              by rw [sameTerms, List.cons_append]⟩
      | error error noEnd longerParsed parsed goesOnLeft =>
          have otherNoEnd : error.followedBy following ≠ .endOfInput := by
            cases error <;> first | exact absurd rfl noEnd | exact nofun
          rw [terms_of_error otherNoEnd longerParsed,
            terms_of_error noEnd parsed]
          exact Or.inl ⟨error, rfl, rfl⟩
      | nothing longerParsed parsed atEnd goesOnEnd =>
          rw [terms_congr longerParsed, terms_of_endOfInput parsed]
          exact Or.inr ⟨rfl, _, standsBefore_of_goesOn goesOnEnd atEnd, rfl⟩

theorem terms_eq_of_goesOn {first second : Parser}
    (goesOn : Scanner.GoesOn none first.scanner second.scanner) :
    first.terms = second.terms := by
  rcases terms_alike goesOn with
    ⟨error, failed, sameTerms⟩ | ⟨succeeded, firstEnd, atEnd, sameTerms⟩
  · rw [sameTerms, ParseError.followedBy_none, ← failed]
  · rw [sameTerms, terms_of_endOfFile atEnd.lookahead_eq, List.append_nil,
      ← succeeded]

/-- The terms of a parser are those of its scanner, whatever its scopes and
its log are. -/
theorem terms_eq_of_scanner {first second : Parser}
    (sameScanner : first.scanner = second.scanner) :
    first.terms = second.terms := by
  apply terms_eq_of_goesOn
  rw [sameScanner]
  exact .refl second.scanner

end Parser

/-! ## Texts -/

/-- What is read of a text: its terms, and the error after them if there is
one. -/
abbrev Reading : Type :=
  List Term × Option ParseError

/-- What is read of a text after the attempt to read its first token. -/
def Answer.terms : Answer Unit → Reading
  | .ok () parser => parser.terms
  | .error error _ => ([], some error)

theorem Answer.terms_ok (value : Unit) (parser : Parser) :
    Answer.terms (.ok value parser) = parser.terms :=
  rfl

/-- The parser in front of a source text, before its first token. -/
def Parser.inFrontOf (source : String) : Parser where
  scanner := .ofSource source
  scopes := .root
  finished := false
  log := .silent

theorem Parser.unfinished_inFrontOf (source : String) :
    (inFrontOf source).lookahead ≠ .endOfFile :=
  nofun

/-- What is read of a source text. -/
def sourceTerms (source : String) : Reading :=
  (Parser.inFrontOf source).advance.terms

/-- Two texts that are the same from some place on, where their next tokens
begin, have the same terms there, whatever has been read, counted and logged
before. -/
theorem Answer.terms_advance_eq {first second : Parser}
    (firstUnfinished : first.lookahead ≠ .endOfFile)
    (secondUnfinished : second.lookahead ≠ .endOfFile)
    (sameRest : first.scanner.rest = second.scanner.rest) :
    first.advance.terms = second.advance.terms := by
  have rest : first.scanner.rest =
      second.scanner.rest ++ Scanner.behind none := by
    rw [sameRest]
    exact (List.append_nil _).symm
  cases Parser.advancesAlike firstUnfinished secondUnfinished rest with
  | token firstRead secondRead goesOn =>
      rw [firstRead, secondRead, Answer.terms_ok, Answer.terms_ok]
      exact Parser.terms_eq_of_goesOn goesOn
  | error error firstRead secondRead restLeft =>
      rw [firstRead, secondRead]
      rfl

theorem Parser.terms_of_newLine {parser : Parser}
    (atNewLine : parser.lookahead = .newLine) :
    parser.terms = parser.advance.terms := by
  have skipped := skipNewLines_of_newLine atNewLine
  cases read : parser.advance with
  | ok value after =>
      rw [read, Answer.andThen_ok] at skipped
      exact terms_congr (parse_of_skipNewLines skipped)
  | error error left =>
      rw [read, Answer.andThen_error] at skipped
      have noEnd : error ≠ .endOfInput := by
        rintro rfl
        unfold Parser.advance at read
        split at read <;> cases read
      exact terms_of_error noEnd (parse_of_skipNewLines_error skipped)

theorem sourceTerms_eq (log : Log) (source : String) :
    (Parser.start log source).terms = sourceTerms source :=
  Answer.terms_advance_eq nofun nofun rfl

/-- Behind a text `first` that ends at a newline, a text `later` is read as on
its own, unless there is an error in `first`. -/
def Reading.append (first later : Reading) : Reading :=
  match first.2 with
  | some error => (first.1, some error.beforeNextLine)
  | none => (first.1 ++ later.1, later.2)

theorem Reading.append_of_none {first later : Reading}
    (succeeded : first.2 = none) :
    first.append later = (first.1 ++ later.1, later.2) := by
  simp only [append, succeeded]

theorem Reading.append_of_some {first later : Reading} {error : ParseError}
    (failed : first.2 = some error) :
    first.append later = (first.1, some error.beforeNextLine) := by
  simp only [append, failed]

theorem sourceTerms_append {whole first later : String}
    (shape : whole.toList = first.toList ++ '\n' :: later.toList) :
    sourceTerms whole =
      (sourceTerms first).append (sourceTerms later) := by
  have rest : (Parser.inFrontOf whole).scanner.rest =
      (Parser.inFrontOf first).scanner.rest ++
        Scanner.behind (some later.toList) :=
    shape
  rw [sourceTerms, sourceTerms]
  cases Parser.advancesAlike (Parser.unfinished_inFrontOf whole)
    (Parser.unfinished_inFrontOf first) rest with
  | token wholeRead firstRead goesOn =>
      rw [wholeRead, firstRead, Answer.terms_ok, Answer.terms_ok]
      rcases Parser.terms_alike goesOn with
        ⟨error, failed, sameTerms⟩ | ⟨succeeded, wholeEnd, atEnd, sameTerms⟩
      · rw [sameTerms, Reading.append_of_some failed,
          ParseError.followedBy_some]
      · have atNewLine : wholeEnd.lookahead = .newLine :=
          atEnd.lookahead_eq
        have laterTerms : wholeEnd.terms = sourceTerms later := by
          rw [Parser.terms_of_newLine atNewLine]
          exact Answer.terms_advance_eq
            (Parser.unfinished_of_eq atNewLine (by simp))
            (Parser.unfinished_inFrontOf later) (atEnd.rest_eq _ rfl)
        rw [sameTerms, Reading.append_of_none succeeded, laterTerms]
  | error error wholeRead firstRead restLeft =>
      rw [wholeRead, firstRead]
      rfl

/-! ## Lines -/

/-- What is read of several texts with newlines between them. -/
def Reading.ofLines : List Reading → Reading
  | [] => ([], none)
  | [last] => last
  | first :: second :: later => first.append (ofLines (second :: later))

theorem sourceTerms_intercalate {parts : List (List Char)}
    (nonempty : parts ≠ []) :
    sourceTerms (.ofList (['\n'].intercalate parts)) =
      .ofLines (parts.map fun part => sourceTerms (.ofList part)) := by
  induction parts with
  | nil =>
      exact absurd rfl nonempty
  | cons part others inductionHypothesis =>
      cases others with
      | nil =>
          rw [List.intercalate_singleton]
          rfl
      | cons second rest =>
          have shape :
              (String.ofList (['\n'].intercalate
                (part :: second :: rest))).toList =
              (String.ofList part).toList ++ '\n' ::
                (String.ofList (['\n'].intercalate
                  (second :: rest))).toList := by
            simp only [String.toList_ofList, List.intercalate_cons_cons,
              List.append_assoc, List.singleton_append]
          rw [sourceTerms_append shape,
            inductionHypothesis (List.cons_ne_nil _ _)]
          rfl

/-- A source text is read as its lines are on their own. -/
theorem sourceTerms_eq_ofLines (source : String) :
    sourceTerms source = .ofLines ((sourceLines source).map sourceTerms) := by
  have parts := sourceTerms_intercalate
    (List.splitOn_ne_nil '\n' source.toList)
  rw [List.intercalate_splitOn, String.ofList_toList] at parts
  rw [parts, sourceLines, List.map_map]
  rfl

namespace Reading

theorem ofLines_cons_of_none {line : Reading} (later : List Reading)
    (succeeded : line.2 = none) :
    ofLines (line :: later) =
      (line.1 ++ (ofLines later).1, (ofLines later).2) := by
  cases later with
  | nil =>
      rw [ofLines, ofLines, List.append_nil, ← succeeded]
  | cons second rest =>
      exact append_of_none succeeded

/-- Lines without an error are read one after the other, and what follows them
is read as on its own. -/
theorem ofLines_append {earlier : List Reading} (later : List Reading)
    (succeed : ∀ line ∈ earlier, line.2 = none) :
    ofLines (earlier ++ later) =
      (earlier.flatMap Prod.fst ++ (ofLines later).1,
        (ofLines later).2) := by
  induction earlier with
  | nil =>
      rfl
  | cons line lines inductionHypothesis =>
      have others := inductionHypothesis fun other member =>
        succeed other (List.mem_cons_of_mem line member)
      have lineSucceeds := succeed line (List.mem_cons_self ..)
      rw [List.cons_append, ofLines_cons_of_none _ lineSucceeds, others,
        List.flatMap_cons, List.append_assoc]

/-- Nothing is read after the first line with an error. -/
theorem ofLines_of_error {line : Reading} {error : ParseError}
    (later : List Reading) (failed : line.2 = some error) :
    ofLines (line :: later) =
      (line.1,
        some (if later = [] then error else error.beforeNextLine)) := by
  cases later with
  | nil =>
      rw [if_pos rfl, ← failed]
      rfl
  | cons second rest =>
      rw [if_neg (List.cons_ne_nil second rest)]
      exact append_of_some failed

theorem ofLines_eq_none_iff {lines : List Reading} :
    (ofLines lines).2 = none ↔ ∀ line ∈ lines, line.2 = none := by
  induction lines with
  | nil =>
      exact iff_of_true rfl nofun
  | cons line later inductionHypothesis =>
      rw [List.forall_mem_cons]
      cases failed : line.2 with
      | none =>
          rw [ofLines_cons_of_none later failed, inductionHypothesis]
          exact ⟨fun others => ⟨rfl, others⟩, And.right⟩
      | some error =>
          rw [ofLines_of_error later failed]
          exact iff_of_false nofun (fun both => nomatch both.1)

end Reading

/-! ## A single line -/

namespace Parser

variable {parser : Parser}

theorem term_ne_endOfInput {left : Parser} :
    parser.term ≠ .error .endOfInput left :=
  (goesOn_term (Scanner.GoesOn.refl parser.scanner)).ne_endOfInput

theorem expression_of_not {parser : Parser} (scope : Nat)
    (absent : parser.lookahead.beginsExpression = false) :
    parser.expression scope =
      .error .notFound (parser.openScope scope).2 := by
  rw [Token.beginsExpression, Bool.or_eq_false_iff] at absent
  have noAbstraction : parser.lookahead ≠ .backslash := by
    intro opening
    rw [opening] at absent
    exact Bool.noConfusion absent.2
  have noAtom : (parser.openScope scope).2.lookahead.beginsAtom = false :=
    absent.1
  rw [expression_of_ne scope noAbstraction, application_eq,
    atom_of_not _ noAtom, Answer.andThen_error]

/-- No term follows another one on the same line. -/
theorem terms_of_endsTerm (ends : parser.lookahead.endsTerm = true)
    (otherToken : parser.lookahead ≠ .newLine)
    (succeeded : parser.terms.2 = none) :
    parser.terms = ([], none) := by
  by_cases atEnd : parser.lookahead = .endOfFile
  · exact terms_of_endOfFile atEnd
  · have absent :
        { parser with scopes := .root }.lookahead.beginsExpression = false :=
      Token.not_beginsExpression_of_endsTerm ends
    have noEnd (token : Token) :
        ParseError.unexpectedToken token ≠ .endOfInput :=
      nofun
    have parsed := parse_eq_term otherToken atEnd
    rw [term, expression_of_not 0 absent, Answer.insist_notFound,
      Answer.andThen_error] at parsed
    rw [terms_of_error (noEnd _) parsed] at succeeded
    cases succeeded

end Parser

/-- A line of blanks has no term. -/
theorem sourceTerms_of_isBlank {line : String}
    (blank : ∀ character ∈ line.toList, isBlank character = true) :
    sourceTerms line = ([], none) := by
  obtain ⟨scanner, read, atEnd⟩ := Scanner.exists_advance_of_isBlank
    (Parser.unfinished_inFrontOf line) blank
  obtain ⟨parser, started, rfl⟩ := Parser.exists_advance_of_scanner read
  rw [sourceTerms, started]
  exact Parser.terms_of_endOfFile atEnd

/-- Any other line without an error has one term, which is the first term of
the line as a text. -/
theorem exists_term_of_line {line : String}
    (noNewLine : '\n' ∉ line.toList)
    (noBlank : ¬∀ character ∈ line.toList, isBlank character = true)
    (succeeded : (sourceTerms line).2 = none) :
    ∃ term, Term.parse line = .ok term ∧
      sourceTerms line = ([term], none) := by
  rw [sourceTerms] at succeeded ⊢
  cases started : (Parser.inFrontOf line).advance with
  | error error left =>
      rw [started] at succeeded
      cases succeeded
  | ok value parser =>
      rw [started, Answer.terms_ok] at succeeded
      have read := Parser.scanner_of_advance started
      have unread := Parser.unfinished_inFrontOf line
      have onLastLine :=
        Scanner.onLastLine_of_advance read unread noNewLine
      have unfinished : parser.lookahead ≠ .endOfFile := fun atEnd =>
        noBlank (Scanner.isBlank_of_lookahead_eq_endOfFile unread read atEnd)
      have parseIsTerm :=
        Parser.parse_eq_term onLastLine.lookahead_ne unfinished
      cases parsed : parser.parse with
      | error error left =>
          have noEnd : error ≠ .endOfInput := by
            rintro rfl
            exact Parser.term_ne_endOfInput (parseIsTerm.symm.trans parsed)
          rw [Parser.terms_of_error noEnd parsed] at succeeded
          cases succeeded
      | ok term after =>
          obtain ⟨⟨newLines, sentence, _, _, passes⟩, ends⟩ :=
            Parser.faces_of_parse parsed
          have stillOnLastLine := onLastLine.passes passes
          rw [Parser.terms_of_ok parsed] at succeeded
          refine ⟨term, ?_, ?_⟩
          · have start : Parser.start .silent line = .ok value parser :=
              started
            rw [Term.parse, start, Answer.andThen_ok, parsed]
          · rw [Answer.terms_ok, Parser.terms_of_ok parsed,
              Parser.terms_of_endsTerm ends stillOnLastLine.lookahead_ne
                succeeded]

end NumberedLambda
