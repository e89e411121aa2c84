import NumberedLambda.Proofs.Parsing.Complaints
import NumberedLambda.Proofs.Parsing.Derivation

/-!
# Where the rules of the grammar stop

A rule that ends with a syntax error has passed tokens that make progress, and
stands in front of one that makes none. The error is the complaint about this
token.

An error goes up through all the rules that are under way. That a rule does
not apply is turned into a complaint by the rule that insists on it, at the
token where both of them stand; every other error is passed on as it is. So
the progress that leads to the token is put together from what the rules have
passed, one after the other, and no rule has to be taken back.
-/

namespace NumberedLambda

open Grammar
open Scanner (Passes)

namespace Grammar.Progress

variable {depth : Nat} {token : Token}

/-! ## Tokens that cannot come next -/

theorem step_expression_eq_none {place : Place}
    (absent : token.beginsExpression = false) :
    step ⟨depth, .expression place⟩ token = none := by
  cases token <;> first | rfl | cases absent

theorem step_operand_eq_none (absent : token.beginsExpression = false)
    (noClosing : token ≠ .rightParen) :
    step ⟨depth, .operand⟩ token = none := by
  rw [step_eq_stepInto rfl noClosing]
  cases token <;> first | rfl | cases absent

theorem step_duplicate {names : List String} {name : String}
    (duplicate : name ∈ names) :
    step ⟨depth, .parameter names⟩ (.identifier name) = none :=
  if_pos duplicate

theorem step_parameter_eq_none {names : List String}
    (noName : ∀ name, token ≠ .identifier name)
    (noDot : token = .dot → names = []) :
    step ⟨depth, .parameter names⟩ token = none := by
  cases token with
  | identifier name =>
      exact absurd rfl (noName name)
  | dot =>
      exact if_pos (noDot rfl)
  | _ =>
      rfl

/-! ## Where an error stops -/

/-- From some progress on, tokens are passed that make progress, up to one
that makes none, and the error is the complaint about it. -/
def Stops (progress : Progress) (before : Scanner) (error : ParseError)
    (after : Scanner) : Prop :=
  ∃ consumed reached, Passes before consumed after ∧
    progress.after consumed = some reached ∧
    reached.step after.lookahead = none ∧
    error = reached.due.complaint after.lookahead

variable {progress next : Progress} {before between after : Scanner}
  {error : ParseError}

theorem stops_here (stuck : progress.step before.lookahead = none)
    (complaint : error = progress.due.complaint before.lookahead) :
    progress.Stops before error before :=
  ⟨[], progress, .nothing before, rfl, stuck, complaint⟩

/-- What stops behind tokens that make progress stops in front of them. -/
theorem Stops.behind {tokens : List Token}
    (stops : next.Stops between error after)
    (passes : Passes before tokens between)
    (made : progress.after tokens = some next) :
    progress.Stops before error after := by
  obtain ⟨consumed, reached, passesLater, madeLater, stuck, complaint⟩ := stops
  refine ⟨tokens ++ consumed, reached, passes.append passesLater, ?_, stuck,
    complaint⟩
  rw [after_append_of_after made, madeLater]

end Grammar.Progress

/-! ## Errors of combined answers -/

namespace Answer

variable {Value Result : Type}

theorem cases_of_andThen_eq_error {answer : Answer Value}
    {next : Value → Parser → Answer Result} {error : ParseError}
    {left : Parser} (failed : answer.andThen next = .error error left) :
    answer = .error error left ∨
      ∃ value between, answer = .ok value between ∧
        next value between = .error error left := by
  cases answer with
  | ok value between =>
      exact Or.inr ⟨value, between, rfl, failed⟩
  | error other otherLeft =>
      cases failed
      exact Or.inl rfl

theorem cases_of_insist_eq_error {answer : Answer Value}
    {complaint : Token → ParseError} {error : ParseError} {left : Parser}
    (failed : answer.insist complaint = .error error left) :
    answer = .error error left ∨
      answer = .error .notFound left ∧ error = complaint left.lookahead := by
  cases answer with
  | ok value between =>
      cases failed
  | error other otherLeft =>
      by_cases absent : other = .notFound
      · subst absent
        cases failed
        exact Or.inr ⟨rfl, rfl⟩
      · rw [insist_error absent] at failed
        exact Or.inl failed

end Answer

namespace Parser

variable {parser left : Parser} {error : ParseError} {depth : Nat}

/-! ## Errors of the rules without recursion -/

/-- Reading a token fails only for lexical reasons. -/
theorem advance_ne_of_isSyntaxError
    (syntactic : error.isSyntaxError = true) :
    parser.advance ≠ .error error left := by
  intro failed
  unfold advance at failed
  split at failed <;> cases failed
  cases syntactic

theorem advance_andThen_ne_of_isSyntaxError {Value : Type} {value : Value}
    (syntactic : error.isSyntaxError = true) :
    (parser.advance.andThen fun () after => .ok value after) ≠
      .error error left := by
  intro failed
  rcases Answer.cases_of_andThen_eq_error failed with
    failed | ⟨_, _, _, failed⟩
  · exact advance_ne_of_isSyntaxError syntactic failed
  · cases failed

theorem stops_of_closing {inner : Term}
    (failed : parser.closing inner = .error error left)
    (syntactic : error.isSyntaxError = true)
    (absent : parser.lookahead.beginsExpression = false) :
    Progress.Stops ⟨depth + 1, .operand⟩ parser.scanner error
      left.scanner := by
  unfold closing at failed
  split at failed
  · exact absurd failed (advance_andThen_ne_of_isSyntaxError syntactic)
  · rename_i noClosing
    cases failed
    exact Progress.stops_here
      (Progress.step_operand_eq_none absent noClosing) rfl

/-- The list of parameters is read up to a token that is not a name. -/
theorem lookahead_of_parameters {scope : Nat}
    {declared all : List Identifier} {ready : Parser}
    (list : parser.parameters scope declared = .ok all ready) :
    ∀ name, ready.lookahead ≠ .identifier name := by
  fun_induction parameters scope declared parser with
  | case1 declared parser name atName duplicate =>
      cases list
  | case2 declared parser name atName fresh after read
      inductionHypothesis =>
      exact inductionHypothesis list
  | case3 declared parser name atName fresh error left read =>
      cases list
  | case4 declared parser others =>
      cases list
      exact others

theorem stops_of_parameters {scope : Nat} {declared : List Identifier}
    (failed : parser.parameters scope declared = .error error left)
    (syntactic : error.isSyntaxError = true) :
    Progress.Stops ⟨depth, .parameter (declared.map Identifier.name)⟩
      parser.scanner error left.scanner := by
  fun_induction parameters scope declared parser with
  | case1 declared parser name atName duplicate =>
      cases failed
      have member : name ∈ declared.map Identifier.name :=
        Decidable.not_not.mp fun fresh =>
          not_any_name_iff.mpr fresh duplicate
      have shown : left.scanner.lookahead = .identifier name := atName
      refine Progress.stops_here ?_ ?_
      · rw [shown]
        exact Progress.step_duplicate member
      · rw [shown]
        exact (parameterComplaint_identifier
          (List.ne_nil_of_mem member) name).symm
  | case2 declared parser name atName fresh after read
      inductionHypothesis =>
      have shown :
          (parser.declare scope name).2.lookahead = .identifier name :=
        atName
      have passes := passes_of_advance shown read
      have stops := inductionHypothesis failed
      rw [List.map_append] at stops
      exact stops.behind passes <|
        Progress.after_cons_of_advances
          (.parameter (not_any_name_iff.mp fresh))
  | case3 declared parser name atName fresh otherError otherLeft read =>
      cases failed
      exact absurd read (advance_ne_of_isSyntaxError syntactic)
  | case4 declared parser others =>
      cases failed

theorem stops_of_dotAfter {declared : List Identifier}
    (failed : parser.dotAfter declared = .error error left)
    (syntactic : error.isSyntaxError = true)
    (noName : ∀ name, parser.lookahead ≠ .identifier name) :
    Progress.Stops ⟨depth, .parameter (declared.map Identifier.name)⟩
      parser.scanner error left.scanner := by
  unfold dotAfter at failed
  split at failed
  · rename_i nothing
    cases failed
    subst nothing
    exact Progress.stops_here
      (Progress.step_parameter_eq_none noName fun _ => rfl) rfl
  · rename_i nonempty
    split at failed
    · exact absurd failed (advance_andThen_ne_of_isSyntaxError syntactic)
    · rename_i noDot
      cases failed
      refine Progress.stops_here
        (Progress.step_parameter_eq_none noName fun atDot =>
          absurd atDot noDot) ?_
      have someNames : declared.map Identifier.name ≠ [] := by
        simpa using nonempty
      exact (parameterComplaint_of_ne someNames noName).symm

theorem stops_of_header {scope : Nat} {due : Due}
    (failed : parser.header scope = .error error left)
    (syntactic : error.isSyntaxError = true)
    (opening : parser.lookahead = .backslash)
    (takes : due.takesTerm = true) :
    Progress.Stops ⟨depth, due⟩ parser.scanner error left.scanner := by
  rw [header, if_pos opening] at failed
  rcases Answer.cases_of_andThen_eq_error failed with
    failed | ⟨_, after, read, failed⟩
  · exact absurd failed (advance_ne_of_isSyntaxError syntactic)
  · have passes := passes_of_advance opening read
    have begun : Progress.after ⟨depth, due⟩ [.backslash] =
        some ⟨depth, .parameter []⟩ :=
      Progress.after_cons_of_advances (.abstraction takes)
    refine Progress.Stops.behind ?_ passes begun
    rcases Answer.cases_of_andThen_eq_error failed with
      failed | ⟨declared, ready, list, failed⟩
    · exact stops_of_parameters failed syntactic
    · obtain ⟨distinct, more, rfl, passesNames⟩ :=
        passes_of_parameters list List.nodup_nil
      exact (stops_of_dotAfter failed syntactic
        (lookahead_of_parameters list)).behind passesNames
        (Progress.after_names distinct)

end Parser

/-! ## Rules that do not apply -/

theorem Token.not_beginsAbstraction_of_ne {token : Token}
    (other : token ≠ .backslash) : token.beginsAbstraction = false := by
  cases token <;> first | rfl | exact absurd rfl other

theorem Token.not_beginsExpression {token : Token}
    (noAtom : token.beginsAtom = false)
    (noAbstraction : token.beginsAbstraction = false) :
    token.beginsExpression = false := by
  rw [beginsExpression, noAtom, noAbstraction]
  rfl

/-- The tokens at which a task is begun. Operands are read as far as they
go, which may be no further than where they begin. -/
def Task.canBegin : Task → Token → Bool
  | .expression => Token.beginsExpression
  | .abstraction => Token.beginsAbstraction
  | .application => Token.beginsAtom
  | .operands _ => fun _ => true
  | .operand => Token.beginsExpression
  | .atom => Token.beginsAtom

/-- Where a task is not begun, the scanner has not moved. -/
theorem not_canBegin_of_evaluates
    {task : Task} {scope : Nat} {parser : Parser} {answer : Answer Term}
    (evaluated : Evaluates task scope parser answer) :
    ∀ left, answer = .error .notFound left →
      task.canBegin parser.lookahead = false ∧
        left.scanner = parser.scanner := by
  induction evaluated with
  | @expressionAbstraction scope parser answer opening evaluated
      inductionHypothesis =>
      intro left absent
      obtain ⟨noAbstraction, _⟩ := inductionHypothesis left absent
      have begins : parser.lookahead.beginsAbstraction = true := by
        rw [opening]
        rfl
      cases begins.symm.trans noAbstraction
  | @expressionApplication scope parser answer noAbstraction evaluated
      inductionHypothesis =>
      intro left absent
      obtain ⟨noAtom, sameScanner⟩ := inductionHypothesis left absent
      exact ⟨Token.not_beginsExpression noAtom
        (Token.not_beginsAbstraction_of_ne noAbstraction), sameScanner⟩
  | noAbstraction other =>
      intro left absent
      cases absent
      exact ⟨Token.not_beginsAbstraction_of_ne other, rfl⟩
  | headerFails opening header =>
      intro left absent
      cases absent
      exact absurd header (Parser.applies_header _ opening _)
  | body opening header evaluated inductionHypothesis =>
      intro left absent
      exact absurd absent <|
        Answer.applies_andThen
          (Answer.applies_insist _ fun _ => ParseError.noConfusion)
          (fun body left => Answer.applies_ok _ left) left
  | operatorFails evaluated inductionHypothesis =>
      exact inductionHypothesis
  | operator atom operands atomHypothesis operandsHypothesis =>
      intro left absent
      cases (operandsHypothesis left absent).1
  | noOperand other =>
      intro left absent
      cases absent
  | operandFails begins evaluated inductionHypothesis =>
      intro left absent
      cases absent
      cases begins.symm.trans (inductionHypothesis _ rfl).1
  | moreOperands begins operand operands operandHypothesis
      operandsHypothesis =>
      intro left absent
      cases (operandsHypothesis left absent).1
  | operandAtom begins evaluated inductionHypothesis =>
      intro left absent
      cases begins.symm.trans (inductionHypothesis left absent).1
  | operandAbstraction other evaluated inductionHypothesis =>
      intro left absent
      obtain ⟨noAbstraction, sameScanner⟩ := inductionHypothesis left absent
      exact ⟨Token.not_beginsExpression other noAbstraction, sameScanner⟩
  | noAtom other =>
      intro left absent
      cases absent
      exact ⟨other, rfl⟩
  | @name scope parser name atName =>
      intro left absent
      exact absurd absent <|
        Answer.applies_andThen parser.applies_advance
          (fun _ left => Answer.applies_ok _ left) left
  | openingFails opening read =>
      intro left absent
      cases absent
      exact absurd read Parser.advance_ne_notFound
  | parenthesized opening read evaluated inductionHypothesis =>
      intro left absent
      exact absurd absent <|
        Answer.applies_andThen
          (Answer.applies_insist _ fun _ => ParseError.noConfusion)
          (fun inner left => left.applies_closing inner) left

/-! ## Rules that call each other -/

/-- Where an expression is insisted on, either the complaint is about the token
at which it should begin, or the error is its own. -/
theorem stops_of_insist
    {depth scope : Nat} {place : Place} {start left : Parser}
    {answer : Answer Term} {error : ParseError}
    (evaluated : Evaluates .expression scope start answer)
    (ownError : answer = .error error left →
      Progress.Stops ⟨depth, .expression place⟩ start.scanner error
        left.scanner)
    (failed : answer.insist (Due.expression place).complaint =
      .error error left) :
    Progress.Stops ⟨depth, .expression place⟩ start.scanner error
      left.scanner := by
  rcases Answer.cases_of_insist_eq_error failed with
    failed | ⟨absent, complaint⟩
  · exact ownError failed
  · obtain ⟨noExpression, sameScanner⟩ :=
      not_canBegin_of_evaluates evaluated left absent
    rw [Parser.lookahead, sameScanner] at complaint
    rw [sameScanner]
    exact Progress.stops_here
      (Progress.step_expression_eq_none noExpression) complaint

/-- A syntax error of a task stops at the first token that makes no progress
from where the task begins. -/
theorem stops_of_evaluates
    {task : Task} {scope : Nat} {parser : Parser} {answer : Answer Term}
    (evaluated : Evaluates task scope parser answer) :
    ∀ error left, answer = .error error left →
      error.isSyntaxError = true →
      ∀ (depth : Nat) (due : Due), due.takesTerm = true →
        Progress.Stops ⟨depth, due⟩ parser.scanner error left.scanner := by
  induction evaluated with
  | expressionAbstraction opening evaluated inductionHypothesis =>
      exact inductionHypothesis
  | expressionApplication noAbstraction evaluated inductionHypothesis =>
      exact inductionHypothesis
  | noAbstraction | noAtom =>
      intro error left failed syntactic
      cases failed
      cases syntactic
  | headerFails opening header =>
      intro error left failed syntactic depth due takes
      cases failed
      exact Parser.stops_of_header header syntactic opening takes
  | @body scope parser start declared answer opening header evaluated
      inductionHypothesis =>
      intro error left failed syntactic depth due takes
      obtain ⟨nonempty, distinct, passes⟩ := Parser.passes_of_header header
      have someNames : declared.map Identifier.name ≠ [] := by
        simpa using nonempty
      refine Progress.Stops.behind ?_ passes
        (Progress.after_header depth takes someNames distinct)
      rcases Answer.cases_of_andThen_eq_error failed with
        failed | ⟨_, _, _, failed⟩
      · exact stops_of_insist evaluated
          (fun own => inductionHypothesis error left own syntactic depth
            (.expression .body) rfl) failed
      · cases failed
  | operatorFails evaluated inductionHypothesis =>
      exact inductionHypothesis
  | operator atom operands atomHypothesis operandsHypothesis =>
      intro error left failed syntactic depth due takes
      obtain ⟨tokens, derivation, passes⟩ :=
        hasPassed_of_evaluates atom _ _ rfl
      exact (operandsHypothesis error left failed syntactic depth .operand
        rfl).behind passes (after_of_derives derivation depth due takes)
  | noOperand absent =>
      intro error left failed
      cases failed
  | operandFails begins evaluated inductionHypothesis =>
      exact inductionHypothesis
  | moreOperands begins operand operands operandHypothesis
      operandsHypothesis =>
      intro error left failed syntactic depth due takes
      obtain ⟨tokens, passes, phrase⟩ :=
        hasPassed_of_evaluates operand _ _ rfl
      have made : Progress.after ⟨depth, due⟩ tokens =
          some ⟨depth, .operand⟩ := by
        rcases phrase with derivation | ⟨derivation, _⟩
        · exact after_of_derives derivation depth due takes
        · exact after_of_derives derivation depth due takes
      exact (operandsHypothesis error left failed syntactic depth .operand
        rfl).behind passes made
  | operandAtom begins evaluated inductionHypothesis =>
      exact inductionHypothesis
  | operandAbstraction absent evaluated inductionHypothesis =>
      exact inductionHypothesis
  | name atName =>
      intro error left failed syntactic
      exact absurd failed
        (Parser.advance_andThen_ne_of_isSyntaxError syntactic)
  | openingFails opening read =>
      intro error left failed syntactic
      cases failed
      exact absurd read (Parser.advance_ne_of_isSyntaxError syntactic)
  | @parenthesized scope parser start answer opening read evaluated
      inductionHypothesis =>
      intro error left failed syntactic depth due takes
      have begun : Progress.after ⟨depth, due⟩ [.leftParen] =
          some ⟨depth + 1, .expression .parentheses⟩ :=
        Progress.after_cons_of_advances (.opening takes)
      refine Progress.Stops.behind ?_ (Parser.passes_of_advance opening read)
        begun
      rcases Answer.cases_of_andThen_eq_error failed with
        failed | ⟨inner, closed, found, failed⟩
      · exact stops_of_insist evaluated
          (fun own => inductionHypothesis error left own syntactic (depth + 1)
            (.expression .parentheses) rfl) failed
      · -- The expression is complete, so only its parenthesis is missing.
        obtain ⟨tokens, derivation, passes, absent⟩ :=
          hasPassed_of_evaluates evaluated inner closed
            (Answer.eq_ok_of_insist found)
        exact (Parser.stops_of_closing failed syntactic absent).behind passes
          (after_of_derives derivation (depth + 1) (.expression .parentheses)
            rfl)

end NumberedLambda
