import NumberedLambda.Parser.Sequence
import NumberedLambda.Proofs.Parsing.Recognition
import NumberedLambda.Proofs.Parsing.Scoping
import NumberedLambda.Proofs.Scanning.Continuation

/-!
# Rules on texts that go on

No rule of the grammar goes on at a newline, as none goes on at the end of the
text. So a parser in a text that goes on after a newline does what it would do
if the text ended there: it answers with the same term, or with the same error,
in which the newline is found in place of the end, and it stops at that newline
at the latest.
-/

namespace NumberedLambda

variable {following : Option (List Char)}

/-- A parser stands in a text as another one, with the same scopes, does in the
beginning of that text. -/
structure Parser.GoesOn (following : Option (List Char))
    (longer shorter : Parser) : Prop where
  scanner : Scanner.GoesOn following longer.scanner shorter.scanner
  scopes_eq : longer.scopes = shorter.scopes

namespace Answer

variable {Value Result : Type}

/-- Two answers with one value, or with one error apart from the end that is
found, given by parsers that stand alike. The error is not that nothing is left
to be read, since no rule reports that. -/
inductive GoesOn (following : Option (List Char)) :
    Answer Value → Answer Value → Prop where
  | value (value : Value) {longer shorter : Parser} :
      Parser.GoesOn following longer shorter →
      GoesOn following (.ok value longer) (.ok value shorter)
  | error (error : ParseError) {longer shorter : Parser} :
      error ≠ .endOfInput → Parser.GoesOn following longer shorter →
      GoesOn following (.error (error.followedBy following) longer)
        (.error error shorter)

namespace GoesOn

theorem andThen {longer shorter : Answer Value}
    {longerNext shorterNext : Value → Parser → Answer Result}
    (answers : GoesOn following longer shorter)
    (next : ∀ value longerLeft shorterLeft,
      Parser.GoesOn following longerLeft shorterLeft →
      GoesOn following (longerNext value longerLeft)
        (shorterNext value shorterLeft)) :
    GoesOn following (longer.andThen longerNext)
      (shorter.andThen shorterNext) := by
  cases answers with
  | value value goesOn =>
      exact next value _ _ goesOn
  | error error noEnd goesOn =>
      exact .error error noEnd goesOn

theorem ne_endOfInput {longer shorter : Answer Value} {left : Parser}
    (answers : GoesOn following longer shorter) :
    shorter ≠ .error .endOfInput left := by
  rintro rfl
  cases answers with
  | error _ noEnd goesOn =>
      exact noEnd rfl

theorem followedBy_ne_notFound {error : ParseError}
    (different : error ≠ .notFound) :
    error.followedBy following ≠ .notFound := by
  cases error <;> simp_all [ParseError.followedBy, ParseError.mapFound]

theorem insist {longer shorter : Answer Value}
    (answers : GoesOn following longer shorter)
    (complaint : Token → ParseError)
    (noEnd : ∀ token, complaint token ≠ .endOfInput)
    (carries : ∀ token, (complaint token).followedBy following =
      complaint (token.followedBy following)) :
    GoesOn following (longer.insist complaint)
      (shorter.insist complaint) := by
  cases answers with
  | value value goesOn =>
      exact .value value goesOn
  | @error error longerLeft shorterLeft otherNoEnd goesOn =>
      by_cases absent : error = .notFound
      · subst absent
        have shown : longerLeft.lookahead =
            shorterLeft.lookahead.followedBy following :=
          goesOn.scanner.lookahead_eq
        have complains : GoesOn following
            (.error ((complaint shorterLeft.lookahead).followedBy following)
              longerLeft : Answer Value)
            (.error (complaint shorterLeft.lookahead) shorterLeft) :=
          .error _ (noEnd _) goesOn
        rw [carries, ← shown] at complains
        exact complains
      · rw [insist_error absent,
          insist_error (followedBy_ne_notFound absent)]
        exact .error error otherNoEnd goesOn

end GoesOn

end Answer

namespace Parser

variable {longer shorter : Parser}

/-! ## Tokens and scopes -/

theorem GoesOn.lookahead_eq (goesOn : GoesOn following longer shorter) :
    longer.lookahead = shorter.lookahead.followedBy following :=
  goesOn.scanner.lookahead_eq

theorem GoesOn.shows {token : Token}
    (goesOn : GoesOn following longer shorter)
    (shown : shorter.lookahead = token) (unfinished : token ≠ .endOfFile) :
    longer.lookahead = token := by
  rw [goesOn.lookahead_eq, shown, Token.followedBy_of_ne unfinished]

theorem GoesOn.shows_not {token : Token}
    (goesOn : GoesOn following longer shorter)
    (absent : shorter.lookahead ≠ token) (noEnd : token ≠ .endOfFile)
    (noNewLine : token ≠ .newLine) : longer.lookahead ≠ token := by
  rw [goesOn.lookahead_eq]
  exact (Token.followedBy_ne_iff noEnd noNewLine).mpr absent

theorem GoesOn.beginsAtom_eq (goesOn : GoesOn following longer shorter) :
    longer.lookahead.beginsAtom = shorter.lookahead.beginsAtom := by
  rw [goesOn.lookahead_eq]
  cases shorter.lookahead <;> cases following <;> rfl

theorem GoesOn.beginsExpression_eq
    (goesOn : GoesOn following longer shorter) :
    longer.lookahead.beginsExpression =
      shorter.lookahead.beginsExpression := by
  rw [goesOn.lookahead_eq]
  cases shorter.lookahead <;> cases following <;> rfl

/-- Two parsers read the same token and stand alike after it, or they fail with
the same error and have the same characters in front of them. -/
inductive AdvancesAlike (following : Option (List Char))
    (longer shorter : Parser) : Prop where
  | token {longerAfter shorterAfter : Parser} :
      longer.advance = .ok () longerAfter →
      shorter.advance = .ok () shorterAfter →
      Scanner.GoesOn following longerAfter.scanner shorterAfter.scanner →
      AdvancesAlike following longer shorter
  | error (error : LexicalError) {longerLeft shorterLeft : Parser} :
      longer.advance = .error (.lexical error) longerLeft →
      shorter.advance = .error (.lexical error) shorterLeft →
      longerLeft.scanner.rest =
        shorterLeft.scanner.rest ++ Scanner.behind following →
      AdvancesAlike following longer shorter

theorem advancesAlike (longerUnfinished : longer.lookahead ≠ .endOfFile)
    (shorterUnfinished : shorter.lookahead ≠ .endOfFile)
    (rest : longer.scanner.rest =
      shorter.scanner.rest ++ Scanner.behind following) :
    AdvancesAlike following longer shorter := by
  have alike := Scanner.readsAlike_advance longerUnfinished
    shorterUnfinished rest
  generalize longerRead : longer.scanner.advance = longerScan at alike
  generalize shorterRead : shorter.scanner.advance = shorterScan at alike
  cases alike with
  | token goesOn =>
      obtain ⟨longerAfter, longerAdvance, rfl⟩ :=
        exists_advance_of_scanner longerRead
      obtain ⟨shorterAfter, shorterAdvance, rfl⟩ :=
        exists_advance_of_scanner shorterRead
      exact .token longerAdvance shorterAdvance goesOn
  | error error restLeft =>
      obtain ⟨longerLeft, longerAdvance, rfl⟩ :=
        exists_advance_error_of_scanner longerRead
      obtain ⟨shorterLeft, shorterAdvance, rfl⟩ :=
        exists_advance_error_of_scanner shorterRead
      exact .error error longerAdvance shorterAdvance restLeft

theorem advancesAlike_of_goesOn
    (goesOn : Scanner.GoesOn following longer.scanner shorter.scanner)
    (unfinished : shorter.lookahead ≠ .endOfFile) :
    AdvancesAlike following longer shorter := by
  have shown : longer.lookahead = shorter.lookahead :=
    goesOn.lookahead_eq_of_ne unfinished
  exact advancesAlike (shown ▸ unfinished) unfinished
    (goesOn.rest_eq unfinished)

theorem lookahead_of_advance_error {parser left : Parser}
    {error : ParseError} (read : parser.advance = .error error left) :
    left.lookahead = parser.lookahead := by
  unfold Parser.advance at read
  split at read
  · cases read
  · rename_i scanned
    cases read
    exact Scanner.lookahead_of_advance_error scanned

theorem GoesOn.advance (goesOn : GoesOn following longer shorter)
    (unfinished : shorter.lookahead ≠ .endOfFile) :
    Answer.GoesOn following longer.advance shorter.advance := by
  have longerScopes := longer.scopes_advance
  have shorterScopes := shorter.scopes_advance
  cases advancesAlike_of_goesOn goesOn.scanner unfinished with
  | token longerRead shorterRead goesOnAfter =>
      rw [longerRead] at longerScopes ⊢
      rw [shorterRead] at shorterScopes ⊢
      refine .value () ⟨goesOnAfter, ?_⟩
      exact longerScopes.trans (goesOn.scopes_eq.trans shorterScopes.symm)
  | error error longerRead shorterRead rest =>
      have goesOnLeft := goesOn.scanner.of_rest unfinished
        (lookahead_of_advance_error longerRead)
        (lookahead_of_advance_error shorterRead) rest
      rw [longerRead] at longerScopes ⊢
      rw [shorterRead] at shorterScopes ⊢
      refine .error (.lexical error) (by simp) ⟨goesOnLeft, ?_⟩
      exact longerScopes.trans (goesOn.scopes_eq.trans shorterScopes.symm)

theorem GoesOn.openScope (goesOn : GoesOn following longer shorter)
    (scope : Nat) :
    (longer.openScope scope).1 = (shorter.openScope scope).1 ∧
      GoesOn following (longer.openScope scope).2
        (shorter.openScope scope).2 := by
  have sameScopes := goesOn.scopes_eq
  refine ⟨?_, goesOn.scanner, ?_⟩
  · rw [Parser.openScope, Parser.openScope, sameScopes]
  · simp only [Parser.openScope, sameScopes]

theorem GoesOn.declare (goesOn : GoesOn following longer shorter)
    (scope : Nat) (name : String) :
    (longer.declare scope name).1 = (shorter.declare scope name).1 ∧
      GoesOn following (longer.declare scope name).2
        (shorter.declare scope name).2 := by
  have sameScopes := goesOn.scopes_eq
  refine ⟨?_, goesOn.scanner, ?_⟩
  · rw [Parser.declare, Parser.declare, sameScopes]
  · simp only [Parser.declare, sameScopes]

/-! ## Rules without recursion -/

theorem goesOn_advance_andThen_ok {Value : Type} (value : Value)
    (goesOn : GoesOn following longer shorter)
    (unfinished : shorter.lookahead ≠ .endOfFile) :
    Answer.GoesOn following
      (longer.advance.andThen fun () after => .ok value after)
      (shorter.advance.andThen fun () after => .ok value after) :=
  (goesOn.advance unfinished).andThen fun _ _ _ goesOnLeft =>
    .value value goesOnLeft

theorem goesOn_closing (inner : Term)
    (goesOn : GoesOn following longer shorter) :
    Answer.GoesOn following (longer.closing inner)
      (shorter.closing inner) := by
  by_cases atClosing : shorter.lookahead = .rightParen
  · rw [closing, closing, if_pos atClosing,
      if_pos (goesOn.shows atClosing (by simp))]
    apply goesOn_advance_andThen_ok inner goesOn
    rw [atClosing]
    simp
  · rw [closing, closing, if_neg atClosing,
      if_neg (goesOn.shows_not atClosing (by simp) (by simp)),
      goesOn.lookahead_eq]
    exact .error (.expectedClosing _) (by simp) goesOn

theorem goesOn_dotAfter (declared : List Identifier)
    (goesOn : GoesOn following longer shorter) :
    Answer.GoesOn following (longer.dotAfter declared)
      (shorter.dotAfter declared) := by
  by_cases nothing : declared = []
  · rw [dotAfter, dotAfter, if_pos nothing, if_pos nothing,
      goesOn.lookahead_eq]
    exact .error (.missingParameter _) (by simp) goesOn
  · rw [dotAfter, dotAfter, if_neg nothing, if_neg nothing]
    by_cases atDot : shorter.lookahead = .dot
    · rw [if_pos atDot, if_pos (goesOn.shows atDot (by simp))]
      apply goesOn_advance_andThen_ok declared goesOn
      rw [atDot]
      simp
    · rw [if_neg atDot, if_neg (goesOn.shows_not atDot (by simp) (by simp)),
        goesOn.lookahead_eq]
      exact .error (.expectedDot _) (by simp) goesOn

theorem goesOn_parameters (scope : Nat) (declared : List Identifier)
    (goesOn : GoesOn following longer shorter) :
    Answer.GoesOn following (longer.parameters scope declared)
      (shorter.parameters scope declared) := by
  fun_induction parameters scope declared shorter generalizing longer with
  | case1 declared shorter name atName duplicate =>
      have shown := goesOn.shows atName (by simp)
      have member : name ∈ declared.map Identifier.name :=
        Decidable.not_not.mp fun fresh =>
          not_any_name_iff.mpr fresh duplicate
      rw [parameters_of_duplicate scope shown member]
      exact .error (.duplicateParameter name) (by simp) goesOn
  | case2 declared shorter name atName fresh after read
      inductionHypothesis =>
      have shown := goesOn.shows atName (by simp)
      obtain ⟨sameIdentifier, goesOnDeclared⟩ := goesOn.declare scope name
      have answers := goesOnDeclared.advance (unfinished_of_eq atName (by simp))
      rw [parameters_of_name scope shown (not_any_name_iff.mp fresh),
        sameIdentifier]
      rw [read] at answers
      generalize (longer.declare scope name).2.advance = answer at answers ⊢
      cases answers with
      | value _ goesOnAfter =>
          exact inductionHypothesis goesOnAfter
  | case3 declared shorter name atName fresh error left read =>
      have shown := goesOn.shows atName (by simp)
      obtain ⟨_, goesOnDeclared⟩ := goesOn.declare scope name
      have answers := goesOnDeclared.advance (unfinished_of_eq atName (by simp))
      rw [parameters_of_name scope shown (not_any_name_iff.mp fresh)]
      rw [read] at answers
      generalize (longer.declare scope name).2.advance = answer at answers ⊢
      cases answers with
      | error error noEnd goesOnLeft =>
          exact .error error noEnd goesOnLeft
  | case4 declared shorter others =>
      rw [parameters_of_end scope declared fun name =>
        goesOn.shows_not (others name) (by simp) (by simp)]
      exact .value declared goesOn

theorem goesOn_header (scope : Nat)
    (goesOn : GoesOn following longer shorter) :
    Answer.GoesOn following (longer.header scope)
      (shorter.header scope) := by
  by_cases opening : shorter.lookahead = .backslash
  · rw [header, header, if_pos opening, if_pos (goesOn.shows opening (by simp))]
    apply (goesOn.advance (unfinished_of_eq opening (by simp))).andThen
    intro _ _ _ goesOnNames
    apply (goesOn_parameters scope [] goesOnNames).andThen
    intro declared _ _ goesOnDot
    exact goesOn_dotAfter declared goesOnDot
  · rw [header, header, if_neg opening,
      if_neg (goesOn.shows_not opening (by simp) (by simp))]
    exact .error .notFound (by simp) goesOn

end Parser

/-! ## All rules -/

/-- Every task is answered alike in a text and in one that goes on. -/
theorem goesOn_of_evaluates
    {task : Task} {scope : Nat} {shorter : Parser} {answer : Answer Term}
    (evaluated : Evaluates task scope shorter answer) :
    ∀ longer, Parser.GoesOn following longer shorter →
      Answer.GoesOn following (task.answer scope longer) answer := by
  induction evaluated with
  | @expressionAbstraction scope shorter answer opening evaluated
      inductionHypothesis =>
      intro longer goesOn
      obtain ⟨sameScope, goesOnInside⟩ := goesOn.openScope scope
      have answers := inductionHypothesis _ goesOnInside
      rw [← sameScope] at answers
      rw [Task.answer,
        Parser.expression_of_backslash scope (goesOn.shows opening (by simp))]
      exact answers
  | @expressionApplication scope shorter answer noAbstraction evaluated
      inductionHypothesis =>
      intro longer goesOn
      obtain ⟨sameScope, goesOnInside⟩ := goesOn.openScope scope
      have answers := inductionHypothesis _ goesOnInside
      rw [← sameScope] at answers
      rw [Task.answer, Parser.expression_of_ne scope
        (goesOn.shows_not noAbstraction (by simp) (by simp))]
      exact answers
  | @noAbstraction scope shorter noAbstraction =>
      intro longer goesOn
      rw [Task.answer, Parser.abstraction_of_ne scope
        (goesOn.shows_not noAbstraction (by simp) (by simp))]
      exact .error .notFound (by simp) goesOn
  | @headerFails scope shorter left error opening header =>
      intro longer goesOn
      have answers := Parser.goesOn_header scope goesOn
      rw [header] at answers
      rw [Task.answer, Parser.abstraction_eq]
      generalize longer.header scope = longerHeader at answers ⊢
      cases answers with
      | error error noEnd goesOnLeft =>
          exact .error error noEnd goesOnLeft
  | @body scope shorter start declared answer opening header evaluated
      inductionHypothesis =>
      intro longer goesOn
      have answers := Parser.goesOn_header scope goesOn
      rw [header] at answers
      rw [Task.answer, Parser.abstraction_eq]
      generalize longer.header scope = longerHeader at answers ⊢
      cases answers with
      | value _ goesOnStart =>
          rw [Answer.andThen_ok]
          have bodies := inductionHypothesis _ goesOnStart
          have insisted :=
            bodies.insist .expectedBody (by simp) fun _ => rfl
          apply insisted.andThen
          intro body _ _ goesOnLeft
          exact .value (Term.lam declared body) goesOnLeft
  | @operatorFails scope shorter left error evaluated
      inductionHypothesis =>
      intro longer goesOn
      have answers := inductionHypothesis longer goesOn
      rw [Task.answer] at answers
      rw [Task.answer, Parser.application_eq]
      generalize longer.atom scope = longerAtom at answers ⊢
      cases answers with
      | error error noEnd goesOnLeft =>
          exact .error error noEnd goesOnLeft
  | @operator scope shorter left operator answer atom operands
      atomHypothesis operandsHypothesis =>
      intro longer goesOn
      have answers := atomHypothesis longer goesOn
      rw [Task.answer] at answers
      rw [Task.answer, Parser.application_eq]
      generalize longer.atom scope = longerAtom at answers ⊢
      cases answers with
      | value _ goesOnLeft =>
          exact operandsHypothesis _ goesOnLeft
  | @noOperand scope shorter operator absent =>
      intro longer goesOn
      rw [← goesOn.beginsExpression_eq] at absent
      rw [Task.answer_operands, Parser.operands_of_not scope operator absent]
      exact .value operator (goesOn.openScope scope).2
  | @operandFails scope shorter left operator error begins evaluated
      inductionHypothesis =>
      intro longer goesOn
      have answers := inductionHypothesis longer goesOn
      rw [← goesOn.beginsExpression_eq] at begins
      have applies := Parser.applies_operand scope begins
      rw [Task.answer] at answers
      rw [Task.answer_operands, Parser.operands_eq]
      generalize longer.operand scope = longerOperand at answers applies ⊢
      cases answers with
      | @error _ longerLeft _ noEnd goesOnLeft =>
          have different : error.followedBy following ≠ .notFound := by
            intro same
            rw [same] at applies
            exact applies longerLeft rfl
          rw [Answer.ifFound_error different]
          exact .error error noEnd goesOnLeft
  | @moreOperands scope shorter left operator operand answer begins
      operandRead operandsRead operandHypothesis operandsHypothesis =>
      intro longer goesOn
      have answers := operandHypothesis longer goesOn
      rw [Task.answer] at answers
      rw [Task.answer_operands, Parser.operands_eq]
      generalize longer.operand scope = longerOperand at answers ⊢
      cases answers with
      | value _ goesOnLeft =>
          exact operandsHypothesis _ goesOnLeft
  | @operandAtom scope shorter answer begins evaluated
      inductionHypothesis =>
      intro longer goesOn
      have answers := inductionHypothesis longer goesOn
      rw [← goesOn.beginsAtom_eq] at begins
      rw [Task.answer, Parser.operand_of_beginsAtom scope begins]
      exact answers
  | @operandAbstraction scope shorter answer absent evaluated
      inductionHypothesis =>
      intro longer goesOn
      obtain ⟨sameScope, goesOnInside⟩ := goesOn.openScope scope
      have answers := inductionHypothesis _ goesOnInside
      rw [← sameScope] at answers
      rw [← goesOn.beginsAtom_eq] at absent
      rw [Task.answer, Parser.operand_of_not scope absent]
      exact answers
  | @noAtom scope shorter absent =>
      intro longer goesOn
      rw [← goesOn.beginsAtom_eq] at absent
      rw [Task.answer, Parser.atom_of_not scope absent]
      exact .error .notFound (by simp) goesOn
  | @name scope shorter name atName =>
      intro longer goesOn
      rw [Task.answer,
        Parser.atom_of_identifier scope (goesOn.shows atName (by simp)),
        goesOn.scopes_eq]
      exact Parser.goesOn_advance_andThen_ok _ goesOn
        (Parser.unfinished_of_eq atName (by simp))
  | @openingFails scope shorter left error opening read =>
      intro longer goesOn
      have answers := goesOn.advance (Parser.unfinished_of_eq opening (by simp))
      rw [read] at answers
      rw [Task.answer,
        Parser.atom_of_leftParen scope (goesOn.shows opening (by simp))]
      generalize longer.advance = longerAnswer at answers ⊢
      cases answers with
      | error error noEnd goesOnLeft =>
          exact .error error noEnd goesOnLeft
  | @parenthesized scope shorter start answer opening read evaluated
      inductionHypothesis =>
      intro longer goesOn
      have answers := goesOn.advance (Parser.unfinished_of_eq opening (by simp))
      rw [read] at answers
      rw [Task.answer,
        Parser.atom_of_leftParen scope (goesOn.shows opening (by simp))]
      generalize longer.advance = longerAnswer at answers ⊢
      cases answers with
      | value _ goesOnStart =>
          rw [Answer.andThen_ok]
          have inside := inductionHypothesis _ goesOnStart
          have insisted :=
            inside.insist .expectedParenthesized (by simp) fun _ => rfl
          apply insisted.andThen
          intro inner _ _ goesOnLeft
          exact Parser.goesOn_closing inner goesOnLeft

/-- The rule for terms begins with an empty tree of scopes, so what the scopes
were before does not matter. -/
theorem Parser.goesOn_term {longer shorter : Parser}
    (goesOn : Scanner.GoesOn following longer.scanner shorter.scanner) :
    Answer.GoesOn following longer.term shorter.term := by
  have started : Parser.GoesOn following { longer with scopes := .root }
      { shorter with scopes := .root } :=
    ⟨goesOn, rfl⟩
  have answers := goesOn_of_evaluates
    (evaluates .expression 0 { shorter with scopes := .root }) _ started
  unfold Parser.term
  apply (answers.insist .unexpectedToken (by simp) fun _ => rfl).andThen
  intro term longerLeft shorterLeft goesOnLeft
  exact .value term ⟨goesOnLeft.scanner, goesOnLeft.scopes_eq⟩

end NumberedLambda
