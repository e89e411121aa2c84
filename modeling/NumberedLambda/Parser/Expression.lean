import NumberedLambda.Parser.Rules

/-!
# The grammar of expressions

An expression is an abstraction or an application. An application is an atom
followed by operands, grouped to the left; an operand is an atom or, at the
end, an abstraction. An atom is a variable or an expression in parentheses.
An abstraction is a backslash, a nonempty list of different parameters, a dot
and an expression, which extends as far as it can.

Every rule is given the scope in which names are resolved. An expression, and
an abstraction that stands as an operand, opens a scope of its own, so that a
parameter is known in the body it belongs to and nowhere else.

The rules call each other without reading a token, so their recursion is
measured by what remains to be read and, among calls at the same place, by the
order of the rules. For this each rule is first defined together with a bound
on the weight of its answer (`boundedExpression` and so on). The rules proper
forget the bound, and the equations `expression_eq` to `parenthesized_eq` at
the end of the module are the grammar.
-/

namespace NumberedLambda

namespace Parser

mutual

/-- The rule for expressions, with its bound. -/
def boundedExpression (scope : Nat) (parser : Parser) :
    BoundedAnswer Term parser.remaining :=
  (boundedAbstraction (parser.openScope scope).1
      (parser.openScope scope).2).orElse fun left shorter =>
    (boundedApplication (parser.openScope scope).1 left).relax shorter
termination_by 6 * parser.remaining + 5
decreasing_by
  · simp only [remaining_openScope]
    omega
  · simp only [remaining_openScope] at shorter
    omega

/-- The rule for abstractions, with its bound. -/
def boundedAbstraction (scope : Nat) (parser : Parser) :
    BoundedAnswer Term parser.remaining :=
  (boundedHeader scope parser).andThen (Nat.le_refl _)
    fun declared start shorter =>
      ((boundedExpression scope start).insist .expectedBody).andThen
        (Nat.le_of_lt shorter) fun body left shorterBody =>
          ⟨.ok (.lam declared body) left,
            Nat.lt_trans shorterBody shorter⟩
termination_by 6 * parser.remaining
decreasing_by omega

/-- The rule for applications, with its bound. -/
def boundedApplication (scope : Nat) (parser : Parser) :
    BoundedAnswer Term parser.remaining :=
  (boundedAtom scope parser).andThen (Nat.le_refl _)
    fun operator left shorter =>
      (boundedOperands scope operator left).relax shorter
termination_by 6 * parser.remaining + 4
decreasing_by all_goals omega

/-- The rule for the operands that follow `operator`, with its bound. It
stops at the first token that begins no operand. -/
def boundedOperands (scope : Nat) (operator : Term) (parser : Parser) :
    BoundedAnswer Term (parser.remaining + 1) :=
  (boundedOperand scope parser).ifFound (Nat.le_succ _)
    (fun operand left shorter =>
      (boundedOperands scope (.app operator operand) left).relax
        (Nat.le_succ_of_le shorter))
    (fun left shorter => ⟨.ok operator left, Nat.succ_le_succ shorter⟩)
termination_by 6 * parser.remaining + 3
decreasing_by all_goals omega

/-- The rule for one operand, with its bound. -/
def boundedOperand (scope : Nat) (parser : Parser) :
    BoundedAnswer Term parser.remaining :=
  (boundedAtom scope parser).orElse fun left shorter =>
    (boundedAbstraction (left.openScope scope).1
      (left.openScope scope).2).relax shorter
termination_by 6 * parser.remaining + 2
decreasing_by
  · omega
  · simp only [remaining_openScope]
    omega

/-- The rule for atoms, with its bound. -/
def boundedAtom (scope : Nat) (parser : Parser) :
    BoundedAnswer Term parser.remaining :=
  (boundedReference scope parser).orElse fun left shorter =>
    (boundedParenthesized scope left).relax shorter
termination_by 6 * parser.remaining + 1
decreasing_by omega

/-- The rule for expressions in parentheses, with its bound. -/
def boundedParenthesized (scope : Nat) (parser : Parser) :
    BoundedAnswer Term parser.remaining :=
  if opening : parser.lookahead = .leftParen then
    (boundedAdvance (unfinished_of_eq opening nofun)).andThen
      (Nat.le_refl _) fun () start shorter =>
        ((boundedExpression scope start).insist
            .expectedParenthesized).andThen (Nat.le_of_lt shorter)
          fun inner left shorterInner =>
            (boundedClosing inner left).relax
              (Nat.le_of_lt (Nat.lt_trans shorterInner shorter))
  else
    ⟨.error .notFound parser, Nat.le_refl _⟩
termination_by 6 * parser.remaining
decreasing_by omega

end

/-! ## The rules proper -/

/-- An expression, in a new scope inside `scope`. -/
def expression (scope : Nat) (parser : Parser) : Answer Term :=
  (boundedExpression scope parser).answer

/-- An abstraction, with its parameters declared in `scope`. -/
def abstraction (scope : Nat) (parser : Parser) : Answer Term :=
  (boundedAbstraction scope parser).answer

/-- An atom and the operands after it. -/
def application (scope : Nat) (parser : Parser) : Answer Term :=
  (boundedApplication scope parser).answer

/-- The operands after `operator`, applied to it from left to right. -/
def operands (scope : Nat) (operator : Term) (parser : Parser) :
    Answer Term :=
  (boundedOperands scope operator parser).answer

/-- An atom, or an abstraction in a new scope inside `scope`. -/
def operand (scope : Nat) (parser : Parser) : Answer Term :=
  (boundedOperand scope parser).answer

/-- A variable, or an expression in parentheses. -/
def atom (scope : Nat) (parser : Parser) : Answer Term :=
  (boundedAtom scope parser).answer

/-- An expression in parentheses. -/
def parenthesized (scope : Nat) (parser : Parser) : Answer Term :=
  (boundedParenthesized scope parser).answer

/-! ## The grammar as equations -/

theorem expression_eq (scope : Nat) (parser : Parser) :
    parser.expression scope =
      ((parser.openScope scope).2.abstraction
        (parser.openScope scope).1).orElse
          (application (parser.openScope scope).1) := by
  rw [expression, boundedExpression]
  exact BoundedAnswer.answer_orElse _ fun _ _ => rfl

theorem abstraction_eq (scope : Nat) (parser : Parser) :
    parser.abstraction scope =
      (parser.header scope).andThen fun declared start =>
        ((start.expression scope).insist .expectedBody).andThen
          fun body left => .ok (.lam declared body) left := by
  rw [abstraction, boundedAbstraction]
  exact BoundedAnswer.answer_andThen _ _ fun _ _ _ =>
    BoundedAnswer.answer_andThen _ _ fun _ _ _ => rfl

theorem application_eq (scope : Nat) (parser : Parser) :
    parser.application scope =
      (parser.atom scope).andThen (operands scope) := by
  rw [application, boundedApplication]
  exact BoundedAnswer.answer_andThen _ _ fun _ _ _ => rfl

theorem operands_eq (scope : Nat) (operator : Term) (parser : Parser) :
    parser.operands scope operator =
      (parser.operand scope).ifFound
        (fun operand left => left.operands scope (.app operator operand))
        (fun left => .ok operator left) := by
  rw [operands, boundedOperands]
  exact BoundedAnswer.answer_ifFound _ _ (fun _ _ _ => rfl)
    (fun _ _ => rfl)

theorem operand_eq (scope : Nat) (parser : Parser) :
    parser.operand scope =
      (parser.atom scope).orElse fun left =>
        (left.openScope scope).2.abstraction (left.openScope scope).1 := by
  rw [operand, boundedOperand]
  exact BoundedAnswer.answer_orElse _ fun _ _ => rfl

theorem atom_eq (scope : Nat) (parser : Parser) :
    parser.atom scope =
      (parser.reference scope).orElse (parenthesized scope) := by
  rw [atom, boundedAtom]
  exact BoundedAnswer.answer_orElse _ fun _ _ => rfl

theorem parenthesized_eq (scope : Nat) (parser : Parser) :
    parser.parenthesized scope =
      if parser.lookahead = .leftParen then
        parser.advance.andThen fun () start =>
          ((start.expression scope).insist .expectedParenthesized).andThen
            closing
      else
        .error .notFound parser := by
  rw [parenthesized, boundedParenthesized]
  split
  · exact BoundedAnswer.answer_andThen _ _ fun _ _ _ =>
      BoundedAnswer.answer_andThen _ _ fun _ _ _ => rfl
  · rfl

/-! ## What the rules use up -/

theorem weight_expression_le (scope : Nat) (parser : Parser) :
    Answer.weight (parser.expression scope) ≤ parser.remaining :=
  (boundedExpression scope parser).weight_le

theorem weight_operand_le (scope : Nat) (parser : Parser) :
    Answer.weight (parser.operand scope) ≤ parser.remaining :=
  (boundedOperand scope parser).weight_le

theorem weight_atom_le (scope : Nat) (parser : Parser) :
    Answer.weight (parser.atom scope) ≤ parser.remaining :=
  (boundedAtom scope parser).weight_le

end Parser

end NumberedLambda
