import NumberedLambda.Proofs.Parsing.Invariance
import NumberedLambda.Proofs.Parsing.Lines
import NumberedLambda.Proofs.Parsing.Recognition
import NumberedLambda.Proofs.Parsing.Stopping
import NumberedLambda.Proofs.Scanning.Obstruction

/-!
# Whether a rule applies

A rule that does not apply leaves the parser as it was, except for scopes that
it has opened in vain and that nothing before them feels. It does not apply
exactly where the current token is none that it can begin with. A rule that
applies goes on to the next token before it answers anything, so its answer is
the error of this first attempt to advance, or it is given behind the token
that the attempt has read.

Both halves follow the choice of the rules by the lookahead. What a rule does
after its first attempt is only known to consist of further attempts and of work
on the scopes, and that is all that is needed.
-/

namespace NumberedLambda

open Answer (Applies)
open ScopeTree (Extends)

namespace Token

variable {token : Token}

theorem ne_backslash_of_not (absent : token.beginsAbstraction = false) :
    token ≠ .backslash := by
  rintro rfl
  cases absent

theorem ne_leftParen_of_not (absent : token.beginsParenthesized = false) :
    token ≠ .leftParen := by
  rintro rfl
  cases absent

theorem eq_leftParen_of_beginsParenthesized
    (begins : token.beginsParenthesized = true) : token = .leftParen := by
  cases token <;> first | rfl | cases begins

theorem exists_name_of_beginsReference
    (begins : token.beginsReference = true) :
    ∃ name, token = .identifier name := by
  cases token <;> first | exact ⟨_, rfl⟩ | cases begins

end Token

/-! ## Attempts one after the other -/

namespace Scanner

theorem afterAttempts_add (scanner : Scanner) (first later : Nat) :
    scanner.afterAttempts (first + later) =
      (scanner.afterAttempts first).afterAttempts later := by
  induction first generalizing scanner with
  | zero =>
      rw [Nat.zero_add]
      rfl
  | succ first inductionHypothesis =>
      rw [Nat.succ_add]
      exact inductionHypothesis scanner.attempt

/-- Attempts to advance, whether they succeed or fail, lead from one scanner to
another. -/
def LeadsTo (before after : Scanner) : Prop :=
  ∃ count, after = before.afterAttempts count

theorem LeadsTo.refl (scanner : Scanner) : scanner.LeadsTo scanner :=
  ⟨0, rfl⟩

theorem LeadsTo.trans {before between after : Scanner}
    (first : before.LeadsTo between) (later : between.LeadsTo after) :
    before.LeadsTo after := by
  obtain ⟨count, rfl⟩ := first
  obtain ⟨further, rfl⟩ := later
  exact ⟨count + further, (before.afterAttempts_add count further).symm⟩

theorem leadsTo_attempt (scanner : Scanner) :
    scanner.LeadsTo scanner.attempt :=
  ⟨1, rfl⟩

end Scanner

namespace Parser

theorem scanner_advance (parser : Parser) :
    parser.advance.parser.scanner = parser.scanner.attempt := by
  unfold advance Scanner.attempt
  cases parser.scanner.advance <;> rfl

/-- The rules move the scanner by attempts to advance, and by nothing else. -/
theorem keptByReading_leadsTo (first : Scanner) :
    KeptByReading fun parser => first.LeadsTo parser.scanner where
  advance := by
    intro parser led
    rw [scanner_advance]
    exact led.trans parser.scanner.leadsTo_attempt
  scopes := fun _ led => led

theorem leadsTo_of_evaluates
    {task : Task} {scope : Nat} {parser : Parser} {answer : Answer Term}
    (evaluated : Evaluates task scope parser answer) :
    parser.scanner.LeadsTo answer.parser.scanner :=
  (keptByReading_leadsTo parser.scanner).evaluates evaluated (.refl _)

end Parser

theorem Answer.leadsTo_andThen {Value Result : Type} {before : Scanner}
    {answer : Answer Value} {next : Value → Parser → Answer Result}
    (first : before.LeadsTo answer.parser.scanner)
    (later : ∀ value (left : Parser),
      left.scanner.LeadsTo (next value left).parser.scanner) :
    before.LeadsTo (answer.andThen next).parser.scanner := by
  cases answer with
  | ok value left =>
      exact first.trans (later value left)
  | error error left =>
      exact first

/-! ## Answers that begin with an attempt -/

/-- An answer that an attempt to advance stands at the beginning of. If the
attempt fails, its error is the answer; otherwise the answer is given where
further attempts lead behind the token that has been read. -/
inductive Answer.BeginsWithAttempt {Value : Type} (before : Scanner) :
    Answer Value → Prop where
  | fails {error : LexicalError} {left : Parser} :
      before.advance = .error error left.scanner →
      BeginsWithAttempt before (.error (.lexical error) left)
  | reads {next : Scanner} {answer : Answer Value} :
      before.advance = .ok () next →
      next.LeadsTo answer.parser.scanner →
      BeginsWithAttempt before answer

namespace Answer

theorem BeginsWithAttempt.andThen {Value Result : Type} {before : Scanner}
    {answer : Answer Value} {next : Value → Parser → Answer Result}
    (begins : answer.BeginsWithAttempt before)
    (later : ∀ value (left : Parser),
      left.scanner.LeadsTo (next value left).parser.scanner) :
    (answer.andThen next).BeginsWithAttempt before := by
  cases begins with
  | fails failed =>
      exact .fails failed
  | reads read led =>
      exact .reads read (leadsTo_andThen led later)

end Answer

namespace Parser

open Answer (BeginsWithAttempt)

theorem beginsWithAttempt_advance (parser : Parser) :
    parser.advance.BeginsWithAttempt parser.scanner := by
  unfold advance
  split
  · rename_i read
    exact .reads read (.refl _)
  · rename_i failed
    exact .fails failed

variable {parser : Parser} (scope : Nat)

theorem beginsWithAttempt_reference
    (begins : parser.lookahead.beginsReference = true) :
    (parser.reference scope).BeginsWithAttempt parser.scanner := by
  obtain ⟨name, atName⟩ := Token.exists_name_of_beginsReference begins
  rw [reference_of_identifier scope atName]
  exact parser.beginsWithAttempt_advance.andThen fun _ left =>
    .refl left.scanner

theorem beginsWithAttempt_parenthesized
    (opening : parser.lookahead = .leftParen) :
    (parser.parenthesized scope).BeginsWithAttempt parser.scanner := by
  rw [parenthesized_eq, if_pos opening]
  refine parser.beginsWithAttempt_advance.andThen fun _ start => ?_
  refine Answer.leadsTo_andThen ?_ fun inner left =>
    (keptByReading_leadsTo left.scanner).closing inner (.refl _)
  rw [Answer.parser_insist]
  exact leadsTo_of_evaluates (evaluates .expression scope start)

theorem applies_reference
    (begins : parser.lookahead.beginsReference = true) :
    (parser.reference scope).Applies := by
  obtain ⟨name, atName⟩ := Token.exists_name_of_beginsReference begins
  rw [reference_of_identifier scope atName]
  exact Answer.applies_andThen parser.applies_advance
    fun _ left => Answer.applies_ok _ left

theorem applies_parenthesized (opening : parser.lookahead = .leftParen) :
    (parser.parenthesized scope).Applies := by
  rw [parenthesized_eq, if_pos opening]
  refine Answer.applies_andThen parser.applies_advance fun _ start => ?_
  exact Answer.applies_andThen
    (Answer.applies_insist _ fun _ => ParseError.noConfusion)
    fun inner left => left.applies_closing inner

theorem beginsWithAttempt_atom
    (begins : parser.lookahead.beginsAtom = true) :
    (parser.atom scope).BeginsWithAttempt parser.scanner := by
  rcases cases_of_beginsAtom begins with ⟨name, atName⟩ | opening
  · rw [atom_of_identifier scope atName,
      ← reference_of_identifier scope atName]
    exact beginsWithAttempt_reference scope (by rw [atName]; rfl)
  · rw [atom_eq, reference_of_not scope (by rw [opening]; rfl),
      Answer.orElse_notFound]
    exact beginsWithAttempt_parenthesized scope opening

theorem beginsWithAttempt_header (opening : parser.lookahead = .backslash) :
    (parser.header scope).BeginsWithAttempt parser.scanner := by
  rw [header, if_pos opening]
  refine parser.beginsWithAttempt_advance.andThen fun _ after => ?_
  exact Answer.leadsTo_andThen
    ((keptByReading_leadsTo after.scanner).parameters scope [] (.refl _))
    fun declared ready =>
      (keptByReading_leadsTo ready.scanner).dotAfter declared (.refl _)

theorem beginsWithAttempt_abstraction
    (opening : parser.lookahead = .backslash) :
    (parser.abstraction scope).BeginsWithAttempt parser.scanner := by
  rw [abstraction_eq]
  refine (beginsWithAttempt_header scope opening).andThen
    fun declared start => ?_
  refine Answer.leadsTo_andThen ?_ fun _ left => .refl left.scanner
  rw [Answer.parser_insist]
  exact leadsTo_of_evaluates (evaluates .expression scope start)

theorem beginsWithAttempt_application
    (begins : parser.lookahead.beginsAtom = true) :
    (parser.application scope).BeginsWithAttempt parser.scanner := by
  rw [application_eq]
  exact (beginsWithAttempt_atom scope begins).andThen fun operator left =>
    leadsTo_of_evaluates (evaluates (.operands operator) scope left)

theorem cases_of_beginsExpression {token : Token}
    (begins : token.beginsExpression = true) :
    token.beginsAtom = true ∨ token = .backslash := by
  rw [Token.beginsExpression, Bool.or_eq_true] at begins
  exact begins.imp_right eq_backslash_of_beginsAbstraction

theorem beginsWithAttempt_expression
    (begins : parser.lookahead.beginsExpression = true) :
    (parser.expression scope).BeginsWithAttempt parser.scanner := by
  let opened := (parser.openScope scope).2
  rcases cases_of_beginsExpression begins with beginsAtom | opening
  · rw [expression_of_ne scope (ne_backslash_of_beginsAtom beginsAtom)]
    have stillBegins : opened.lookahead.beginsAtom = true := beginsAtom
    exact beginsWithAttempt_application _ stillBegins
  · rw [expression_of_backslash scope opening]
    have stillOpening : opened.lookahead = .backslash := opening
    exact beginsWithAttempt_abstraction _ stillOpening

theorem beginsWithAttempt_operand
    (begins : parser.lookahead.beginsExpression = true) :
    (parser.operand scope).BeginsWithAttempt parser.scanner := by
  let opened := (parser.openScope scope).2
  rcases cases_of_beginsExpression begins with beginsAtom | opening
  · rw [operand_of_beginsAtom scope beginsAtom]
    exact beginsWithAttempt_atom scope beginsAtom
  · rw [operand_of_not scope (by rw [opening]; rfl)]
    have stillOpening : opened.lookahead = .backslash := opening
    exact beginsWithAttempt_abstraction _ stillOpening

end Parser

/-! ## All rules -/

theorem Task.applies_of_canBegin (task : Task) {parser : Parser}
    (scope : Nat) (begins : task.canBegin parser.lookahead = true) :
    (task.answer scope parser).Applies := by
  intro left notFound
  obtain ⟨absent, _⟩ :=
    not_canBegin_of_evaluates (evaluates task scope parser) left notFound
  cases begins.symm.trans absent

namespace Rule

open Answer (BeginsWithAttempt)

variable {rule : Rule} {parser : Parser}

/-- A rule that can begin with the current token begins with an attempt to
advance. -/
theorem beginsWithAttempt_read (scope : Nat)
    (begins : rule.canBegin parser.lookahead = true) :
    (rule.read scope parser).BeginsWithAttempt parser.scanner := by
  cases rule with
  | expression =>
      exact Parser.beginsWithAttempt_expression scope begins
  | abstraction =>
      exact Parser.beginsWithAttempt_abstraction scope
        (Parser.eq_backslash_of_beginsAbstraction begins)
  | application =>
      exact Parser.beginsWithAttempt_application scope begins
  | operand =>
      exact Parser.beginsWithAttempt_operand scope begins
  | atom =>
      exact Parser.beginsWithAttempt_atom scope begins
  | reference =>
      exact Parser.beginsWithAttempt_reference scope begins
  | parenthesized =>
      have opening : parser.lookahead = .leftParen :=
        Token.eq_leftParen_of_beginsParenthesized begins
      exact Parser.beginsWithAttempt_parenthesized scope opening

/-- A rule that cannot begin with the current token does not apply, and leaves
the parser with nothing but new scopes. -/
theorem read_of_not_canBegin (scope : Nat)
    (absent : rule.canBegin parser.lookahead = false) :
    ∃ scopes, Extends parser.scopes.size parser.scopes scopes ∧
      rule.read scope parser =
        .error .notFound { parser with scopes := scopes } := by
  let opened := (parser.openScope scope).2
  have inVain : Extends parser.scopes.size parser.scopes opened.scopes :=
    parser.scopes.extends_openChild scope
  have untouched : Extends parser.scopes.size parser.scopes parser.scopes :=
    .refl _ _
  cases rule with
  | expression =>
      exact ⟨opened.scopes, inVain, Parser.expression_of_not scope absent⟩
  | operand =>
      obtain ⟨noAtom, noAbstraction⟩ := Bool.or_eq_false_iff.mp absent
      have stillNoBackslash : opened.lookahead ≠ .backslash :=
        Token.ne_backslash_of_not noAbstraction
      refine ⟨opened.scopes, inVain, ?_⟩
      rw [read, Parser.operand_of_not scope noAtom,
        Parser.abstraction_of_ne _ stillNoBackslash]
      rfl
  | abstraction =>
      exact ⟨parser.scopes, untouched, Parser.abstraction_of_ne scope
        (Token.ne_backslash_of_not absent)⟩
  | application =>
      refine ⟨parser.scopes, untouched, ?_⟩
      rw [read, Parser.application_eq, Parser.atom_of_not scope absent]
      rfl
  | atom =>
      exact ⟨parser.scopes, untouched, Parser.atom_of_not scope absent⟩
  | reference =>
      exact ⟨parser.scopes, untouched, Parser.reference_of_not scope absent⟩
  | parenthesized =>
      exact ⟨parser.scopes, untouched, Parser.parenthesized_of_ne scope
        (Token.ne_leftParen_of_not absent)⟩

/-- A rule that can begin with the current token applies. -/
theorem applies_read (scope : Nat)
    (begins : rule.canBegin parser.lookahead = true) :
    (rule.read scope parser).Applies := by
  cases rule with
  | expression =>
      exact Task.applies_of_canBegin .expression scope begins
  | abstraction =>
      exact Task.applies_of_canBegin .abstraction scope begins
  | application =>
      exact Task.applies_of_canBegin .application scope begins
  | operand =>
      exact Task.applies_of_canBegin .operand scope begins
  | atom =>
      exact Task.applies_of_canBegin .atom scope begins
  | reference =>
      exact Parser.applies_reference scope begins
  | parenthesized =>
      exact Parser.applies_parenthesized scope
        (Token.eq_leftParen_of_beginsParenthesized begins)

theorem canBegin_eq_false_iff (scope : Nat) :
    (∃ left, rule.read scope parser = .error .notFound left) ↔
      rule.canBegin parser.lookahead = false := by
  constructor
  · rintro ⟨left, notFound⟩
    rw [Bool.eq_false_iff]
    intro begins
    exact applies_read scope begins left notFound
  · intro absent
    obtain ⟨scopes, _, notFound⟩ := read_of_not_canBegin scope absent
    exact ⟨_, notFound⟩

end Rule

/-! ## Reading a whole term -/

namespace Parser

theorem applies_skipNewLines (parser : Parser) :
    parser.skipNewLines.Applies := by
  fun_induction skipNewLines parser with
  | case1 parser atNewLine after read inductionHypothesis =>
      exact inductionHypothesis
  | case2 parser atNewLine error left read =>
      intro other absent
      cases absent
      exact advance_ne_notFound read
  | case3 parser otherToken =>
      exact Answer.applies_ok () parser

/-- That no rule applies is never reported where a whole term is to be
read. -/
theorem applies_parse (parser : Parser) : parser.parse.Applies := by
  refine Answer.applies_andThen parser.applies_skipNewLines
    fun _ ready => ?_
  split
  · exact Answer.applies_error ParseError.noConfusion ready
  · exact Answer.applies_andThen
      (Answer.applies_insist _ fun _ => ParseError.noConfusion)
      fun term left => Answer.applies_ok term _

end Parser

/-- Whether a rule applies is decided by the current token. In every scope, a
rule answers that it does not apply if and only if it cannot begin with the
lookahead. Then the scanner is where it was, and from every scope that was
there before each name resolves to the number it resolved to. A rule that
answers anything else has begun with an attempt to advance. To the request for
a whole term, the answer is never that no rule applies. -/
theorem Rule.applicability_is_decided_by_lookahead :
    (∀ (rule : Rule) (scope : Nat) (parser : Parser),
      ((∃ left, rule.read scope parser = .error .notFound left) ↔
        rule.canBegin parser.lookahead = false) ∧
      (∀ left, rule.read scope parser = .error .notFound left →
        left.scanner = parser.scanner ∧
          ∀ position < parser.scopes.size, ∀ name,
            left.scopes.numberOf position name =
              parser.scopes.numberOf position name) ∧
      ((rule.read scope parser).Applies →
        (rule.read scope parser).BeginsWithAttempt parser.scanner)) ∧
    ∀ parser : Parser, parser.parse.Applies := by
  refine ⟨fun rule scope parser => ⟨?_, ?_, ?_⟩, Parser.applies_parse⟩
  · exact canBegin_eq_false_iff scope
  · intro left notFound
    have absent := (canBegin_eq_false_iff scope).mp ⟨left, notFound⟩
    obtain ⟨scopes, extended, same⟩ := read_of_not_canBegin scope absent
    cases notFound.symm.trans same
    exact ⟨rfl, extended.numberOf_eq⟩
  · intro applies
    apply beginsWithAttempt_read scope
    rw [← Bool.not_eq_false]
    intro absent
    obtain ⟨scopes, _, notFound⟩ := read_of_not_canBegin scope absent
    exact applies _ notFound

end NumberedLambda
