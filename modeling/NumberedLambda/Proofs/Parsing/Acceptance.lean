import NumberedLambda.Parser.Sequence
import NumberedLambda.Proofs.Parsing.Derivation
import NumberedLambda.Proofs.Parsing.Recognition

/-!
# The parser accepts exactly the sentences

Reading a term succeeds if and only if, after the ends of empty lines, a
sentence stands in front of the parser and is followed by a token that can
neither continue it nor belong to it. The term then has the tree of the
sentence, and the parser stops at that token.
-/

namespace NumberedLambda

open Grammar
open Scanner (Passes)

namespace Token

/-- The tokens in front of which a term can end. -/
def endsTerm : Token → Bool
  | .endOfFile => true
  | .newLine => true
  | .rightParen => true
  | .dot => true
  | _ => false

/-- A token that has been read either begins an expression or ends a term. -/
theorem endsTerm_of_not_beginsExpression {token : Token}
    (absent : token.beginsExpression = false)
    (read : token ≠ .startOfFile) : token.endsTerm = true := by
  cases token <;> first | rfl | exact absurd rfl read | cases absent

theorem not_beginsExpression_of_endsTerm {token : Token}
    (ends : token.endsTerm = true) : token.beginsExpression = false := by
  cases token <;> first | rfl | cases ends

end Token

namespace Parser

/-! ## Empty lines -/

theorem skipNewLines_of_newLine {parser : Parser}
    (atNewLine : parser.lookahead = .newLine) :
    parser.skipNewLines =
      parser.advance.andThen fun () after => after.skipNewLines := by
  rw [skipNewLines, dif_pos atNewLine]
  split
  · rename_i after read
    rw [read, Answer.andThen_ok]
  · rename_i read
    rw [read, Answer.andThen_error]

theorem skipNewLines_of_ne {parser : Parser}
    (otherToken : parser.lookahead ≠ .newLine) :
    parser.skipNewLines = .ok () parser := by
  rw [skipNewLines, dif_neg otherToken]

theorem passes_of_skipNewLines {parser ready : Parser}
    (skipped : parser.skipNewLines = .ok () ready) :
    ∃ newLines, (∀ token ∈ newLines, token = Token.newLine) ∧
      Passes parser.scanner newLines ready.scanner := by
  fun_induction skipNewLines parser with
  | case1 parser atNewLine after read inductionHypothesis =>
      obtain ⟨newLines, ends, passes⟩ := inductionHypothesis skipped
      refine ⟨.newLine :: newLines, ?_,
        (passes_of_advance atNewLine read).append passes⟩
      intro token member
      rcases List.mem_cons.mp member with rfl | later
      · rfl
      · exact ends token later
  | case2 parser atNewLine error left read =>
      cases skipped
  | case3 parser otherToken =>
      cases skipped
      refine ⟨[], ?_, .nothing _⟩
      intro token member
      cases member

theorem exists_skipNewLines_of_passes
    {parser : Parser} {newLines : List Token} {scanner : Scanner}
    (ends : ∀ token ∈ newLines, token = Token.newLine)
    (passes : Passes parser.scanner newLines scanner)
    (otherToken : scanner.lookahead ≠ .newLine) :
    ∃ ready, parser.skipNewLines = .ok () ready ∧
      ready.scanner = scanner := by
  induction newLines generalizing parser with
  | nil =>
      cases passes with
      | nothing scanner =>
          exact ⟨parser, skipNewLines_of_ne otherToken, rfl⟩
  | cons token later inductionHypothesis =>
      obtain ⟨shown, after, read, passesLater⟩ :=
        exists_advance_of_passes passes
      have atNewLine : parser.lookahead = .newLine :=
        shown.trans (ends token (List.mem_cons_self ..))
      obtain ⟨ready, skipped, atScanner⟩ :=
        inductionHypothesis
          (fun other member => ends other (List.mem_cons_of_mem _ member))
          passesLater
      refine ⟨ready, ?_, atScanner⟩
      rw [skipNewLines_of_newLine atNewLine, read, Answer.andThen_ok]
      exact skipped

/-! ## Terms -/

/-- A term is read where, after empty lines and before the end of the text,
an expression is read in an empty tree of scopes. -/
theorem parse_eq_ok_iff {parser after : Parser} {term : Term} :
    parser.parse = .ok term after ↔
      ∃ ready left, parser.skipNewLines = .ok () ready ∧
        ready.lookahead ≠ .endOfFile ∧
        expression 0 { ready with scopes := .root } = .ok term left ∧
        after = { left with log := left.log.add (.parsed term) } := by
  constructor
  · intro parsed
    unfold parse at parsed
    cases skipped : parser.skipNewLines with
    | error error left =>
        rw [skipped] at parsed
        cases parsed
    | ok value ready =>
        rw [skipped, Answer.andThen_ok] at parsed
        split at parsed
        · cases parsed
        · rename_i unfinished
          unfold Parser.term at parsed
          cases read : expression 0 { ready with scopes := .root } with
          | error error left =>
              rw [read] at parsed
              cases error <;> cases parsed
          | ok found left =>
              rw [read] at parsed
              cases parsed
              exact ⟨ready, left, rfl, unfinished, read, rfl⟩
  · rintro ⟨ready, left, skipped, unfinished, read, rfl⟩
    rw [parse, skipped, Answer.andThen_ok, if_neg unfinished, Parser.term,
      read, Answer.insist_ok, Answer.andThen_ok]

theorem parse_of_endOfFile {parser : Parser}
    (atEnd : parser.lookahead = .endOfFile) :
    parser.parse = .error .endOfInput parser := by
  have noNewLine : parser.lookahead ≠ .newLine := by
    simp [atEnd]
  rw [parse, skipNewLines_of_ne noNewLine, Answer.andThen_ok,
    if_pos atEnd]

/-- In front of a parser stand ends of lines and then a sentence that stands
for `tree`. The scanner after them shows the token that follows. -/
def Faces (parser : Parser) (tree : Skeleton) (scanner : Scanner) : Prop :=
  ∃ newLines sentence, (∀ token ∈ newLines, token = Token.newLine) ∧
    Sentence sentence tree ∧
    Passes parser.scanner (newLines ++ sentence) scanner

theorem faces_of_parse {parser after : Parser} {term : Term}
    (parsed : parser.parse = .ok term after) :
    parser.Faces term.skeleton after.scanner ∧
      after.lookahead.endsTerm = true := by
  obtain ⟨ready, left, skipped, unfinished, read, rfl⟩ :=
    parse_eq_ok_iff.mp parsed
  obtain ⟨newLines, ends, passNewLines⟩ := passes_of_skipNewLines skipped
  obtain ⟨sentence, derivation, passSentence, stopped⟩ :=
    hasPassed_of_evaluates
      (evaluates .expression 0 { ready with scopes := .root }) term left read
  have readToken : left.lookahead ≠ .startOfFile :=
    passSentence.lookahead_ne_startOfFile (ne_nil_of_derives derivation)
  exact
    ⟨⟨newLines, sentence, ends, derivation, passNewLines.append passSentence⟩,
      Token.endsTerm_of_not_beginsExpression stopped readToken⟩

theorem exists_parse_of_faces {parser : Parser} {tree : Skeleton}
    {scanner : Scanner} (faces : parser.Faces tree scanner)
    (ends : scanner.lookahead.endsTerm = true) :
    ∃ term after, parser.parse = .ok term after ∧ term.skeleton = tree ∧
      after.scanner = scanner := by
  obtain ⟨newLines, sentence, onlyNewLines, derivation, passes⟩ := faces
  obtain ⟨between, passNewLines, passSentence⟩ := passes.append_inversion
  obtain ⟨first, later, rfl, begins⟩ := exists_cons_of_derives derivation
  have shown : between.lookahead = first := passSentence.cons_inversion.1
  rw [← shown] at begins
  have noNewLine : between.lookahead ≠ .newLine := by
    intro atNewLine
    rw [atNewLine] at begins
    cases begins
  obtain ⟨ready, skipped, rfl⟩ :=
    exists_skipNewLines_of_passes onlyNewLines passNewLines noNewLine
  have unfinished : ready.lookahead ≠ .endOfFile := by
    intro atEnd
    rw [lookahead] at atEnd
    rw [atEnd] at begins
    cases begins
  obtain ⟨term, left, read, sameTree, rfl⟩ :=
    isRead_of_derives derivation 0 { ready with scopes := .root } scanner
      passSentence (Token.not_beginsExpression_of_endsTerm ends)
  exact ⟨term, _,
    parse_eq_ok_iff.mpr ⟨ready, left, skipped, unfinished, read, rfl⟩,
    sameTree, rfl⟩

/-- A term is read, up to a token `ending`, exactly where a sentence is
followed by that token and the token ends a term. Its tree is the tree of that
sentence, and the parser stops where the sentence does. -/
theorem parse_accepts_exactly_sentences (parser : Parser) (ending : Token) :
    ((∃ term after, parser.parse = .ok term after ∧
        after.lookahead = ending) ↔
      ∃ tree scanner, parser.Faces tree scanner ∧
        scanner.lookahead = ending ∧ ending.endsTerm = true) ∧
    ∀ term after, parser.parse = .ok term after →
      parser.Faces term.skeleton after.scanner ∧
      ∀ tree scanner, parser.Faces tree scanner →
        scanner.lookahead.endsTerm = true →
        term.skeleton = tree ∧ after.scanner = scanner := by
  refine ⟨⟨?_, ?_⟩, ?_⟩
  · rintro ⟨term, after, parsed, rfl⟩
    obtain ⟨faces, ends⟩ := faces_of_parse parsed
    exact ⟨term.skeleton, after.scanner, faces, rfl, ends⟩
  · rintro ⟨tree, scanner, faces, rfl, ends⟩
    obtain ⟨term, after, parsed, _, rfl⟩ := exists_parse_of_faces faces ends
    exact ⟨term, after, parsed, rfl⟩
  · intro term after parsed
    refine ⟨(faces_of_parse parsed).1, ?_⟩
    intro tree scanner faces ends
    obtain ⟨other, left, parsedOther, sameTree, atScanner⟩ :=
      exists_parse_of_faces faces ends
    cases parsed.symm.trans parsedOther
    exact ⟨sameTree, atScanner⟩

end Parser

end NumberedLambda
