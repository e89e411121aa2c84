import NumberedLambda.Grammar
import NumberedLambda.Proofs.Parsing.Evaluation
import NumberedLambda.Proofs.Scanning.Passage

/-!
# Accepted tokens are phrases

When a rule answers with a term, the tokens that it has passed are a phrase of
its kind, and the phrase stands for the term without its numbers. An
expression is left only at a token with which no operand can begin, so what
follows an abstraction in operand position is never another operand.
-/

namespace NumberedLambda

open Grammar
open Scanner (Passes)

namespace Parser

/-! ## Reading a token -/

theorem scanner_of_advance {parser after : Parser}
    (read : parser.advance = .ok () after) :
    parser.scanner.advance = .ok () after.scanner := by
  unfold advance at read
  split at read
  · rename_i scanner scanned
    cases read
    exact scanned
  · cases read

theorem passes_of_advance {parser after : Parser} {token : Token}
    (shown : parser.lookahead = token)
    (read : parser.advance = .ok () after) :
    Passes parser.scanner [token] after.scanner := by
  rw [← shown]
  exact .single (scanner_of_advance read)

/-! ## Abstractions up to their body -/

/-- The tokens of a parameter list. -/
def parameterTokens (parameters : List Identifier) : List Token :=
  (parameters.map Identifier.name).map Token.identifier

/-- The parameters that are read are passed as identifiers, and their names
stay different from each other. -/
theorem passes_of_parameters
    {scope : Nat} {declared all : List Identifier} {parser ready : Parser}
    (list : parser.parameters scope declared = .ok all ready)
    (distinct : (declared.map Identifier.name).Nodup) :
    (all.map Identifier.name).Nodup ∧
      ∃ more, all = declared ++ more ∧
        Passes parser.scanner (parameterTokens more) ready.scanner := by
  fun_induction parameters scope declared parser with
  | case1 declared parser name atName duplicate =>
      cases list
  | case2 declared parser name atName fresh after read
      inductionHypothesis =>
      have stillDistinct :
          ((declared ++ [(parser.declare scope name).1]).map
            Identifier.name).Nodup := by
        rw [List.map_append, List.nodup_append]
        refine ⟨distinct, by simp, ?_⟩
        intro earlier earlierMember later laterMember equality
        have atEnd : later = name := List.mem_singleton.mp laterMember
        rw [equality, atEnd] at earlierMember
        exact not_any_name_iff.mp fresh earlierMember
      obtain ⟨allDistinct, more, shape, passes⟩ :=
        inductionHypothesis list stillDistinct
      refine ⟨allDistinct, (parser.declare scope name).1 :: more, ?_, ?_⟩
      · rw [shape, List.append_assoc]
        rfl
      · have shown :
            (parser.declare scope name).2.lookahead = .identifier name :=
          atName
        exact (passes_of_advance shown read).append passes
  | case3 declared parser name atName fresh error left read =>
      cases list
  | case4 declared parser others =>
      cases list
      exact ⟨distinct, [], (List.append_nil _).symm, .nothing _⟩

/-- The part of an abstraction in front of its body: a backslash, at least one
parameter, all with different names, and a dot. -/
theorem passes_of_header
    {scope : Nat} {declared : List Identifier} {parser start : Parser}
    (list : parser.header scope = .ok declared start) :
    declared ≠ [] ∧ (declared.map Identifier.name).Nodup ∧
      Passes parser.scanner
        (.backslash :: (parameterTokens declared ++ [.dot]))
        start.scanner := by
  obtain ⟨nonempty, after, ready, opening, read, found, atDot, readDot⟩ :=
    header_eq_ok list
  obtain ⟨distinct, more, rfl, passes⟩ :=
    passes_of_parameters found List.nodup_nil
  refine ⟨nonempty, distinct, ?_⟩
  have first := passes_of_advance opening read
  have last := passes_of_advance atDot readDot
  exact first.append (passes.append last)

end Parser

/-! ## Terms -/

/-- What has been passed where a task is answered with a term. -/
def Task.HasPassed : Task → Scanner → Term → Scanner → Prop
  | .expression, before, term, after =>
      ∃ tokens, Derives .expression tokens term.skeleton ∧
        Passes before tokens after ∧
        after.lookahead.beginsExpression = false
  | .abstraction, before, term, after =>
      ∃ tokens, Derives .abstraction tokens term.skeleton ∧
        Passes before tokens after ∧
        after.lookahead.beginsExpression = false
  | .application, before, term, after =>
      ∃ tokens, Derives .expression tokens term.skeleton ∧
        Passes before tokens after ∧
        after.lookahead.beginsExpression = false
  | .operands operator, before, term, after =>
      (before.lookahead.beginsExpression = false →
        term = operator ∧ after = before) ∧
      ∃ tokens, Passes before tokens after ∧
        after.lookahead.beginsExpression = false ∧
        ∀ first, Derives .atoms first operator.skeleton →
          Derives .expression (first ++ tokens) term.skeleton
  | .operand, before, term, after =>
      ∃ tokens, Passes before tokens after ∧
        (Derives .atom tokens term.skeleton ∨
          Derives .abstraction tokens term.skeleton ∧
            after.lookahead.beginsExpression = false)
  | .atom, before, term, after =>
      ∃ tokens, Derives .atom tokens term.skeleton ∧
        Passes before tokens after

theorem hasPassed_of_evaluates
    {task : Task} {scope : Nat} {parser : Parser} {answer : Answer Term}
    (evaluated : Evaluates task scope parser answer) :
    ∀ term after, answer = .ok term after →
      task.HasPassed parser.scanner term after.scanner := by
  induction evaluated with
  | expressionAbstraction opening evaluated inductionHypothesis =>
      intro term after found
      obtain ⟨tokens, derivation, passes, stopped⟩ :=
        inductionHypothesis term after found
      exact ⟨tokens, .bareAbstraction derivation, passes, stopped⟩
  | expressionApplication noAbstraction evaluated inductionHypothesis =>
      intro term after found
      exact inductionHypothesis term after found
  | noAbstraction | headerFails | operatorFails | operandFails | noAtom
  | openingFails =>
      intro term after found
      cases found
  | @body scope parser start declared answer opening header evaluated
      inductionHypothesis =>
      intro term after found
      obtain ⟨body, left, read, last⟩ := Answer.exists_of_andThen_eq_ok found
      cases last
      obtain ⟨nonempty, distinct, passHeader⟩ :=
        Parser.passes_of_header header
      obtain ⟨tokens, derivation, passBody, stopped⟩ :=
        inductionHypothesis body _ (Answer.eq_ok_of_insist read)
      have namesNonempty : declared.map Identifier.name ≠ [] := by
        simpa using nonempty
      refine ⟨_, .abstraction namesNonempty distinct derivation, ?_, stopped⟩
      have passes := passHeader.append passBody
      simpa [Parser.parameterTokens] using passes
  | @operator scope parser left operator answer atom operands
      atomHypothesis operandsHypothesis =>
      intro term after found
      obtain ⟨first, derivation, passFirst⟩ :=
        atomHypothesis operator left rfl
      obtain ⟨_, tokens, passes, stopped, complete⟩ :=
        operandsHypothesis term after found
      exact ⟨first ++ tokens, complete first (.oneAtom derivation),
        passFirst.append passes, stopped⟩
  | @noOperand scope parser operator absent =>
      intro term after found
      cases found
      refine ⟨fun _ => ⟨rfl, rfl⟩, [], .nothing _, absent, ?_⟩
      intro first derivation
      rw [List.append_nil]
      exact .application derivation
  | @moreOperands scope parser left operator operand answer begins operandRead
      operandsRead operandHypothesis operandsHypothesis =>
      intro term after found
      obtain ⟨tokens, passes, phrase⟩ := operandHypothesis operand left rfl
      obtain ⟨atEnd, others, passOthers, stopped, complete⟩ :=
        operandsHypothesis term after found
      have unreachable :
          parser.scanner.lookahead.beginsExpression = false →
            term = operator ∧ after.scanner = parser.scanner := by
        intro absent
        have contradiction := begins.symm.trans absent
        cases contradiction
      rcases phrase with atom | ⟨abstraction, noOther⟩
      · refine ⟨unreachable, tokens ++ others, passes.append passOthers,
          stopped, ?_⟩
        intro first derivation
        rw [← List.append_assoc]
        exact complete (first ++ tokens) (.moreAtoms derivation atom)
      · -- An abstraction takes in all later operands, so nothing is passed
        -- after it.
        obtain ⟨rfl, sameScanner⟩ := atEnd noOther
        rw [sameScanner] at unreachable ⊢
        refine ⟨unreachable, tokens, passes, noOther, ?_⟩
        intro first derivation
        exact .trailingAbstraction derivation abstraction
  | operandAtom begins evaluated inductionHypothesis =>
      intro term after found
      obtain ⟨tokens, derivation, passes⟩ :=
        inductionHypothesis term after found
      exact ⟨tokens, passes, Or.inl derivation⟩
  | operandAbstraction absent evaluated inductionHypothesis =>
      intro term after found
      obtain ⟨tokens, derivation, passes, stopped⟩ :=
        inductionHypothesis term after found
      exact ⟨tokens, passes, Or.inr ⟨derivation, stopped⟩⟩
  | @name scope parser name atName =>
      intro term after found
      obtain ⟨_, left, read, last⟩ := Answer.exists_of_andThen_eq_ok found
      cases last
      exact ⟨[.identifier name], .name name,
        Parser.passes_of_advance atName read⟩
  | @parenthesized scope parser start answer opening read evaluated
      inductionHypothesis =>
      intro term after found
      obtain ⟨inner, left, readInner, last⟩ :=
        Answer.exists_of_andThen_eq_ok found
      obtain ⟨rfl, atClosing, readClosing⟩ := Parser.closing_eq_ok last
      obtain ⟨tokens, derivation, passInner, _⟩ :=
        inductionHypothesis term left (Answer.eq_ok_of_insist readInner)
      have passOpening := Parser.passes_of_advance opening read
      have passClosing := Parser.passes_of_advance atClosing readClosing
      exact ⟨_, .parenthesized derivation,
        passOpening.append (passInner.append passClosing)⟩

end NumberedLambda
