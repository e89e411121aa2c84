import NumberedLambda.Grammar
import NumberedLambda.Proofs.Parsing.Decision
import NumberedLambda.Proofs.Scanning.Passage

/-!
# Phrases are accepted

Where the tokens in front of a parser are a phrase, the rule for it answers
with a term that has the tree of the phrase, and stops right after it. For an
expression and an abstraction, which extend as far as they can, the token
after the phrase must be one with which no operand begins.
-/

namespace NumberedLambda

open Grammar
open Scanner (Passes)

namespace Grammar

/-- Whether a phrase of some kind can begin with a token. -/
def Phrase.canBegin : Phrase → Token → Bool
  | .expression => Token.beginsExpression
  | .abstraction => Token.beginsAbstraction
  | .atoms => Token.beginsAtom
  | .atom => Token.beginsAtom

/-- A phrase begins with a token that phrases of its kind can begin with. -/
theorem exists_cons_of_derives {phrase : Phrase} {tokens : List Token}
    {tree : Skeleton} (derivation : Derives phrase tokens tree) :
    ∃ first later, tokens = first :: later ∧
      phrase.canBegin first = true := by
  induction derivation with
  | name name =>
      exact ⟨_, _, rfl, rfl⟩
  | parenthesized inner inductionHypothesis =>
      exact ⟨_, _, rfl, rfl⟩
  | oneAtom inner inductionHypothesis =>
      exact inductionHypothesis
  | moreAtoms firstPhrase lastPhrase firstHypothesis lastHypothesis =>
      obtain ⟨first, later, rfl, begins⟩ := firstHypothesis
      exact ⟨first, _, List.cons_append, begins⟩
  | abstraction someNames distinct inner inductionHypothesis =>
      exact ⟨_, _, rfl, rfl⟩
  | bareAbstraction inner inductionHypothesis =>
      obtain ⟨first, later, rfl, begins⟩ := inductionHypothesis
      have beginsAbstraction : first.beginsAbstraction = true := begins
      refine ⟨first, later, rfl, ?_⟩
      simp [Phrase.canBegin, Token.beginsExpression, beginsAbstraction]
  | application inner inductionHypothesis =>
      obtain ⟨first, later, rfl, begins⟩ := inductionHypothesis
      have beginsAtom : first.beginsAtom = true := begins
      refine ⟨first, later, rfl, ?_⟩
      simp [Phrase.canBegin, Token.beginsExpression, beginsAtom]
  | trailingAbstraction firstPhrase lastPhrase firstHypothesis
      lastHypothesis =>
      obtain ⟨first, later, rfl, begins⟩ := firstHypothesis
      have beginsAtom : first.beginsAtom = true := begins
      refine ⟨first, _, List.cons_append, ?_⟩
      simp [Phrase.canBegin, Token.beginsExpression, beginsAtom]

end Grammar

namespace Parser

/-! ## Reading the tokens of a phrase -/

theorem exists_advance_of_scanner {parser : Parser} {scanner : Scanner}
    (read : parser.scanner.advance = .ok () scanner) :
    ∃ after, parser.advance = .ok () after ∧ after.scanner = scanner := by
  unfold advance
  rw [read]
  exact ⟨_, rfl, rfl⟩

theorem exists_advance_error_of_scanner {parser : Parser}
    {scanner : Scanner} {error : LexicalError}
    (read : parser.scanner.advance = .error error scanner) :
    ∃ left, parser.advance = .error (.lexical error) left ∧
      left.scanner = scanner := by
  unfold advance
  rw [read]
  exact ⟨_, rfl, rfl⟩

theorem exists_advance_of_passes
    {parser : Parser} {token : Token} {tokens : List Token}
    {scanner : Scanner}
    (passes : Passes parser.scanner (token :: tokens) scanner) :
    parser.lookahead = token ∧
      ∃ after, parser.advance = .ok () after ∧
        Passes after.scanner tokens scanner := by
  obtain ⟨shown, between, read, later⟩ := passes.cons_inversion
  obtain ⟨after, readToken, rfl⟩ := exists_advance_of_scanner read
  exact ⟨shown, after, readToken, later⟩

theorem canBegin_lookahead
    {parser : Parser} {phrase : Phrase} {tokens : List Token}
    {tree : Skeleton} {scanner : Scanner}
    (derivation : Derives phrase tokens tree)
    (passes : Passes parser.scanner tokens scanner) :
    phrase.canBegin parser.lookahead = true := by
  obtain ⟨first, later, rfl, begins⟩ := exists_cons_of_derives derivation
  rw [(exists_advance_of_passes passes).1]
  exact begins

theorem exists_parameters_of_passes
    (scope : Nat) (declared : List Identifier) {names : List String}
    {parser : Parser} {scanner : Scanner}
    (passes : Passes parser.scanner (names.map Token.identifier) scanner)
    (distinct : (declared.map Identifier.name ++ names).Nodup)
    (atEnd : ∀ name, scanner.lookahead ≠ .identifier name) :
    ∃ all ready, parser.parameters scope declared = .ok all ready ∧
      all.map Identifier.name = declared.map Identifier.name ++ names ∧
      ready.scanner = scanner := by
  induction names generalizing declared parser with
  | nil =>
      cases passes with
      | nothing scanner =>
          exact ⟨declared, parser, parameters_of_end scope declared atEnd,
            (List.append_nil _).symm, rfl⟩
  | cons name names inductionHypothesis =>
      -- The name is declared before the next token is read, which does not
      -- change the tokens.
      have passesDeclared :
          Passes (parser.declare scope name).2.scanner
            (.identifier name :: names.map Token.identifier) scanner :=
        passes
      obtain ⟨atName, after, read, later⟩ :=
        exists_advance_of_passes passesDeclared
      have shown : parser.lookahead = .identifier name := atName
      have fresh : name ∉ declared.map Identifier.name := by
        intro member
        exact (List.nodup_append.mp distinct).2.2 name member name
          (List.mem_cons_self ..) rfl
      have laterDistinct :
          ((declared ++ [(parser.declare scope name).1]).map
            Identifier.name ++ names).Nodup := by
        rw [List.map_append, List.append_assoc]
        exact distinct
      obtain ⟨all, ready, list, shape, atScanner⟩ :=
        inductionHypothesis _ later laterDistinct
      refine ⟨all, ready, ?_, ?_, atScanner⟩
      · rw [parameters_of_name scope shown fresh, read, Answer.andThen_ok]
        exact list
      · rw [shape, List.map_append, List.append_assoc]
        rfl

theorem exists_header_of_passes
    {names : List String} {parser : Parser} {scanner : Scanner}
    (scope : Nat) (nonempty : names ≠ []) (distinct : names.Nodup)
    (passes : Passes parser.scanner
      (.backslash :: (names.map Token.identifier ++ [.dot])) scanner) :
    ∃ declared start, parser.header scope = .ok declared start ∧
      declared.map Identifier.name = names ∧ start.scanner = scanner := by
  obtain ⟨opening, after, read, later⟩ := exists_advance_of_passes passes
  obtain ⟨between, passNames, passDot⟩ := later.append_inversion
  obtain ⟨atDot, afterDot, readDot, finished⟩ := passDot.cons_inversion
  cases finished
  have noName : ∀ name, between.lookahead ≠ .identifier name := by
    intro name
    rw [atDot]
    simp
  obtain ⟨declared, ready, list, shape, rfl⟩ :=
    exists_parameters_of_passes scope [] passNames distinct noName
  rw [List.map_nil, List.nil_append] at shape
  obtain ⟨start, readStart, rfl⟩ := exists_advance_of_scanner readDot
  refine ⟨declared, start, ?_, shape, rfl⟩
  have someDeclared : declared ≠ [] := by
    rintro rfl
    exact nonempty shape.symm
  have dotShown : ready.lookahead = .dot := atDot
  rw [header, if_pos opening, read, Answer.andThen_ok, list,
    Answer.andThen_ok, dotAfter, if_neg someDeclared, if_pos dotShown,
    readStart, Answer.andThen_ok]

end Parser

/-! ## Phrases -/

/-- A parser reads tokens as a phrase, whatever stands after them, and gives
them the tree. After the atoms in front of it, an application goes on with the
operands. -/
def Grammar.Phrase.IsRead :
    Phrase → List Token → Skeleton → Prop
  | .expression, tokens, tree =>
      ∀ scope (parser : Parser) scanner,
        Passes parser.scanner tokens scanner →
        scanner.lookahead.beginsExpression = false →
        ∃ (term : Term) (after : Parser),
          parser.expression scope = .ok term after ∧
          term.skeleton = tree ∧ after.scanner = scanner
  | .abstraction, tokens, tree =>
      ∀ scope (parser : Parser) scanner,
        Passes parser.scanner tokens scanner →
        scanner.lookahead.beginsExpression = false →
        ∃ (term : Term) (after : Parser),
          parser.abstraction scope = .ok term after ∧
          term.skeleton = tree ∧ after.scanner = scanner
  | .atoms, tokens, tree =>
      ∀ scope (parser : Parser) scanner,
        Passes parser.scanner tokens scanner →
        ∃ (operator : Term) (after : Parser),
          parser.application scope = after.operands scope operator ∧
          operator.skeleton = tree ∧ after.scanner = scanner
  | .atom, tokens, tree =>
      ∀ scope (parser : Parser) scanner,
        Passes parser.scanner tokens scanner →
        ∃ (term : Term) (after : Parser),
          parser.atom scope = .ok term after ∧
          term.skeleton = tree ∧ after.scanner = scanner

namespace Parser

theorem ne_backslash_of_beginsAtom {token : Token}
    (begins : token.beginsAtom = true) : token ≠ .backslash := by
  rintro rfl
  cases begins

theorem eq_backslash_of_beginsAbstraction {token : Token}
    (begins : token.beginsAbstraction = true) : token = .backslash := by
  cases token <;> first | rfl | cases begins

theorem operands_of_abstraction
    {scope : Nat} {operator operand : Term} {parser after : Parser}
    (opening : parser.lookahead = .backslash)
    (read : (parser.openScope scope).2.abstraction
      (parser.openScope scope).1 = .ok operand after) :
    parser.operands scope operator =
      after.operands scope (.app operator operand) := by
  have noAtom : parser.lookahead.beginsAtom = false := by
    rw [opening]
    rfl
  rw [operands_eq, operand_of_not scope noAtom, read, Answer.ifFound_ok]

theorem operands_of_atom
    {scope : Nat} {operator operand : Term} {parser after : Parser}
    (begins : parser.lookahead.beginsAtom = true)
    (read : parser.atom scope = .ok operand after) :
    parser.operands scope operator =
      after.operands scope (.app operator operand) := by
  rw [operands_eq, operand_of_beginsAtom scope begins, read,
    Answer.ifFound_ok]

end Parser

/-- Every phrase is read. -/
theorem isRead_of_derives {phrase : Phrase} {tokens : List Token}
    {tree : Skeleton} (derivation : Derives phrase tokens tree) :
    phrase.IsRead tokens tree := by
  induction derivation with
  | name name =>
      intro scope parser scanner passes
      obtain ⟨atName, after, read, finished⟩ :=
        Parser.exists_advance_of_passes passes
      cases finished
      refine ⟨.var (parser.scopes.identify scope name), after, ?_, rfl, rfl⟩
      rw [Parser.atom_of_identifier scope atName, read, Answer.andThen_ok]
  | parenthesized inner inductionHypothesis =>
      intro scope parser scanner passes
      obtain ⟨opening, start, read, later⟩ :=
        Parser.exists_advance_of_passes passes
      obtain ⟨between, passInner, passClosing⟩ := later.append_inversion
      obtain ⟨atClosing, closed, readClosing, finished⟩ :=
        passClosing.cons_inversion
      cases finished
      have stopped : between.lookahead.beginsExpression = false := by
        rw [atClosing]
        rfl
      obtain ⟨term, left, readInner, sameTree, rfl⟩ :=
        inductionHypothesis scope start between passInner stopped
      obtain ⟨after, readAfter, rfl⟩ :=
        Parser.exists_advance_of_scanner readClosing
      refine ⟨term, after, ?_, sameTree, rfl⟩
      have closingShown : left.lookahead = .rightParen := atClosing
      rw [Parser.atom_of_leftParen scope opening, read, Answer.andThen_ok,
        readInner, Answer.insist_ok, Answer.andThen_ok, Parser.closing,
        if_pos closingShown, readAfter, Answer.andThen_ok]
  | oneAtom inner inductionHypothesis =>
      intro scope parser scanner passes
      obtain ⟨operator, after, read, sameTree, atScanner⟩ :=
        inductionHypothesis scope parser scanner passes
      refine ⟨operator, after, ?_, sameTree, atScanner⟩
      rw [Parser.application_eq, read, Answer.andThen_ok]
  | moreAtoms first last firstHypothesis lastHypothesis =>
      intro scope parser scanner passes
      obtain ⟨between, passFirst, passLast⟩ := passes.append_inversion
      obtain ⟨operator, left, readFirst, operatorTree, rfl⟩ :=
        firstHypothesis scope parser between passFirst
      obtain ⟨operand, after, readLast, operandTree, atScanner⟩ :=
        lastHypothesis scope left scanner passLast
      have begins : left.lookahead.beginsAtom = true :=
        Parser.canBegin_lookahead last passLast
      refine ⟨.app operator operand, after, ?_, ?_, atScanner⟩
      · rw [readFirst, Parser.operands_of_atom begins readLast]
      · rw [Term.skeleton, operatorTree, operandTree]
  | @abstraction names tokens body nonempty distinct inner
      inductionHypothesis =>
      intro scope parser scanner passes stopped
      have regrouped :
          Token.backslash :: (names.map Token.identifier ++ .dot :: tokens) =
            (.backslash :: (names.map Token.identifier ++ [.dot])) ++
              tokens := by
        simp
      rw [regrouped] at passes
      obtain ⟨between, passHeader, passBody⟩ := passes.append_inversion
      obtain ⟨declared, start, header, sameNames, rfl⟩ :=
        Parser.exists_header_of_passes scope nonempty distinct passHeader
      obtain ⟨term, after, read, sameTree, atScanner⟩ :=
        inductionHypothesis scope start scanner passBody stopped
      refine ⟨.lam declared term, after, ?_, ?_, atScanner⟩
      · rw [Parser.abstraction_eq, header, Answer.andThen_ok, read,
          Answer.insist_ok, Answer.andThen_ok]
      · rw [Term.skeleton, sameNames, sameTree]
  | bareAbstraction inner inductionHypothesis =>
      intro scope parser scanner passes stopped
      have opening : parser.lookahead = .backslash :=
        Parser.eq_backslash_of_beginsAbstraction <|
          Parser.canBegin_lookahead inner passes
      rw [Parser.expression_of_backslash scope opening]
      exact inductionHypothesis _ (parser.openScope scope).2 scanner passes
        stopped
  | application inner inductionHypothesis =>
      intro scope parser scanner passes stopped
      have noAbstraction : parser.lookahead ≠ .backslash :=
        Parser.ne_backslash_of_beginsAtom <|
          Parser.canBegin_lookahead inner passes
      obtain ⟨operator, after, read, sameTree, rfl⟩ :=
        inductionHypothesis (parser.openScope scope).1
          (parser.openScope scope).2 scanner passes
      refine ⟨operator, (after.openScope (parser.openScope scope).1).2, ?_,
        sameTree, rfl⟩
      rw [Parser.expression_of_ne scope noAbstraction, read]
      exact Parser.operands_of_not _ operator stopped
  | trailingAbstraction first last firstHypothesis lastHypothesis =>
      intro scope parser scanner passes stopped
      obtain ⟨between, passFirst, passLast⟩ := passes.append_inversion
      have noAbstraction : parser.lookahead ≠ .backslash :=
        Parser.ne_backslash_of_beginsAtom <|
          Parser.canBegin_lookahead first passFirst
      obtain ⟨operator, left, readFirst, operatorTree, rfl⟩ :=
        firstHypothesis (parser.openScope scope).1
          (parser.openScope scope).2 between passFirst
      have opening : left.lookahead = .backslash :=
        Parser.eq_backslash_of_beginsAbstraction <|
          Parser.canBegin_lookahead last passLast
      obtain ⟨operand, after, readLast, operandTree, rfl⟩ :=
        lastHypothesis (left.openScope (parser.openScope scope).1).1
          (left.openScope (parser.openScope scope).1).2 scanner passLast
          stopped
      refine ⟨.app operator operand,
        (after.openScope (parser.openScope scope).1).2, ?_, ?_, rfl⟩
      · rw [Parser.expression_of_ne scope noAbstraction, readFirst,
          Parser.operands_of_abstraction opening readLast]
        exact Parser.operands_of_not _ _ stopped
      · rw [Term.skeleton, operatorTree, operandTree]

end NumberedLambda
