import NumberedLambda.Parser.First

/-!
# Rules are chosen by the current token

The rules try one another and take the answer that no rule applies for a
choice. Whether a rule applies can be told from the lookahead alone: if the
rule can begin with it, the answer is something else, and if not, the parser
is left as it was. So every trial can be replaced by a look at one token, and
the equations of this module do so.
-/

namespace NumberedLambda

namespace Answer

variable {Value Result : Type}

/-- An answer other than that no rule applies. -/
def Applies (answer : Answer Value) : Prop :=
  ∀ left, answer ≠ .error .notFound left

theorem applies_ok (value : Value) (left : Parser) :
    Applies (.ok value left) := by
  intro other equality
  cases equality

theorem applies_error {error : ParseError} (different : error ≠ .notFound)
    (left : Parser) : Applies (.error error left : Answer Value) := by
  intro other equality
  cases equality
  exact different rfl

theorem orElse_of_applies {answer : Answer Value}
    (applies : answer.Applies) (next : Parser → Answer Value) :
    answer.orElse next = answer := by
  cases answer with
  | ok value left =>
      rfl
  | error error left =>
      have different : error ≠ .notFound := by
        rintro rfl
        exact applies left rfl
      exact orElse_error different left next

theorem applies_insist (answer : Answer Value)
    {complaint : Token → ParseError}
    (different : ∀ token, complaint token ≠ .notFound) :
    (answer.insist complaint).Applies := by
  cases answer with
  | ok value left =>
      exact applies_ok value left
  | error error left =>
      by_cases absent : error = .notFound
      · subst absent
        exact applies_error (different left.lookahead) left
      · rw [insist_error absent]
        exact applies_error absent left

theorem applies_andThen {answer : Answer Value}
    {next : Value → Parser → Answer Result} (first : answer.Applies)
    (later : ∀ value left, (next value left).Applies) :
    (answer.andThen next).Applies := by
  cases answer with
  | ok value left =>
      exact later value left
  | error error left =>
      intro other equality
      cases equality
      exact first left rfl

theorem exists_of_andThen_eq_ok {answer : Answer Value}
    {next : Value → Parser → Answer Result} {result : Result}
    {after : Parser} (found : answer.andThen next = .ok result after) :
    ∃ value left, answer = .ok value left ∧
      next value left = .ok result after := by
  cases answer with
  | ok value left =>
      exact ⟨value, left, rfl, found⟩
  | error error left =>
      cases found

theorem eq_ok_of_insist {answer : Answer Value}
    {complaint : Token → ParseError} {value : Value} {left : Parser}
    (found : answer.insist complaint = .ok value left) :
    answer = .ok value left := by
  cases answer with
  | ok other otherLeft =>
      exact found
  | error error otherLeft =>
      cases error <;> cases found

end Answer

namespace Parser

open Answer

/-! ## Rules without recursion -/

theorem applies_advance (parser : Parser) : parser.advance.Applies := by
  intro left equality
  exact advance_ne_notFound equality

theorem not_any_name_iff {declared : List Identifier} {name : String} :
    ¬ (declared.any fun parameter => parameter.name = name) ↔
      name ∉ declared.map Identifier.name := by
  simp [List.any_eq_true, List.mem_map]

theorem parameters_of_duplicate
    {declared : List Identifier} {parser : Parser} {name : String}
    (scope : Nat) (atName : parser.lookahead = .identifier name)
    (duplicate : name ∈ declared.map Identifier.name) :
    parser.parameters scope declared =
      .error (.duplicateParameter name) parser := by
  have found : declared.any fun parameter => parameter.name = name :=
    Decidable.not_not.mp fun fresh =>
      not_any_name_iff.mp fresh duplicate
  rw [parameters]
  split
  · rename_i other atOther
    cases atName.symm.trans atOther
    rw [if_pos found]
  · rename_i others
    exact absurd atName (others name)

theorem parameters_of_name
    {declared : List Identifier} {parser : Parser} {name : String}
    (scope : Nat) (atName : parser.lookahead = .identifier name)
    (fresh : name ∉ declared.map Identifier.name) :
    parser.parameters scope declared =
      (parser.declare scope name).2.advance.andThen fun () after =>
        after.parameters scope
          (declared ++ [(parser.declare scope name).1]) := by
  rw [parameters]
  split
  · rename_i other atOther
    cases atName.symm.trans atOther
    rw [if_neg (not_any_name_iff.mpr fresh)]
    split <;> rename_i read <;> rw [read] <;> rfl
  · rename_i others
    exact absurd atName (others name)

theorem parameters_of_end {parser : Parser}
    (scope : Nat) (declared : List Identifier)
    (atEnd : ∀ name, parser.lookahead ≠ .identifier name) :
    parser.parameters scope declared = .ok declared parser := by
  rw [parameters]
  split
  · rename_i name atName
    exact absurd atName (atEnd name)
  · rfl

theorem applies_parameters
    (scope : Nat) (declared : List Identifier) (parser : Parser) :
    (parser.parameters scope declared).Applies := by
  fun_induction parameters scope declared parser with
  | case1 declared parser name atName duplicate =>
      exact applies_error (by simp) parser
  | case2 declared parser name atName fresh after read
      inductionHypothesis =>
      exact inductionHypothesis
  | case3 declared parser name atName fresh error left read =>
      intro other equality
      cases equality
      exact advance_ne_notFound read
  | case4 declared parser others =>
      exact applies_ok declared parser

theorem applies_dotAfter (declared : List Identifier) (parser : Parser) :
    (parser.dotAfter declared).Applies := by
  unfold dotAfter
  split
  · exact applies_error (by simp) parser
  · split
    · exact applies_andThen parser.applies_advance
        fun _ left => applies_ok declared left
    · exact applies_error (by simp) parser

theorem applies_closing (inner : Term) (parser : Parser) :
    (parser.closing inner).Applies := by
  unfold closing
  split
  · exact applies_andThen parser.applies_advance
      fun _ left => applies_ok inner left
  · exact applies_error (by simp) parser

theorem applies_header {parser : Parser} (scope : Nat)
    (opening : parser.lookahead = .backslash) :
    (parser.header scope).Applies := by
  rw [header, if_pos opening]
  refine applies_andThen parser.applies_advance fun _ after => ?_
  exact applies_andThen (applies_parameters scope [] after)
    fun declared left => left.applies_dotAfter declared

/-- What is read where an abstraction is read up to its body. -/
theorem header_eq_ok {scope : Nat} {declared : List Identifier}
    {parser start : Parser}
    (list : parser.header scope = .ok declared start) :
    declared ≠ [] ∧ ∃ after ready, parser.lookahead = .backslash ∧
      parser.advance = .ok () after ∧
      after.parameters scope [] = .ok declared ready ∧
      ready.lookahead = .dot ∧ ready.advance = .ok () start := by
  unfold header at list
  split at list
  · rename_i opening
    obtain ⟨_, after, read, list⟩ := exists_of_andThen_eq_ok list
    obtain ⟨all, ready, found, list⟩ := exists_of_andThen_eq_ok list
    unfold dotAfter at list
    split at list
    · cases list
    · rename_i nonempty
      split at list
      · rename_i atDot
        obtain ⟨_, afterDot, readDot, last⟩ := exists_of_andThen_eq_ok list
        cases last
        exact ⟨nonempty, after, ready, opening, read, found, atDot, readDot⟩
      · cases list
  · cases list

theorem closing_eq_ok {inner term : Term} {parser closed : Parser}
    (found : parser.closing inner = .ok term closed) :
    term = inner ∧ parser.lookahead = .rightParen ∧
      parser.advance = .ok () closed := by
  unfold closing at found
  split at found
  · rename_i atClosing
    obtain ⟨_, after, read, last⟩ := exists_of_andThen_eq_ok found
    cases last
    exact ⟨rfl, atClosing, read⟩
  · cases found

theorem reference_of_identifier {parser : Parser} {name : String}
    (scope : Nat) (atName : parser.lookahead = .identifier name) :
    parser.reference scope =
      parser.advance.andThen fun () after =>
        .ok (.var (parser.scopes.identify scope name)) after := by
  rw [reference, atName]

theorem reference_of_not {parser : Parser} (scope : Nat)
    (absent : parser.lookahead.beginsReference = false) :
    parser.reference scope = .error .notFound parser := by
  unfold reference
  split
  · rename_i name atName
    rw [atName] at absent
    cases absent
  · rfl

/-! ## Abstractions -/

theorem abstraction_of_ne {parser : Parser} (scope : Nat)
    (absent : parser.lookahead ≠ .backslash) :
    parser.abstraction scope = .error .notFound parser := by
  rw [abstraction_eq, header, if_neg absent]
  rfl

theorem applies_abstraction {parser : Parser} (scope : Nat)
    (opening : parser.lookahead = .backslash) :
    (parser.abstraction scope).Applies := by
  rw [abstraction_eq]
  refine applies_andThen (applies_header scope opening)
    fun declared start => ?_
  exact applies_andThen (applies_insist _ nofun)
    fun body left => applies_ok _ left

/-! ## Atoms -/

theorem parenthesized_of_ne {parser : Parser} (scope : Nat)
    (absent : parser.lookahead ≠ .leftParen) :
    parser.parenthesized scope = .error .notFound parser := by
  rw [parenthesized_eq, if_neg absent]

theorem atom_of_identifier {parser : Parser} {name : String} (scope : Nat)
    (atName : parser.lookahead = .identifier name) :
    parser.atom scope =
      parser.advance.andThen fun () after =>
        .ok (.var (parser.scopes.identify scope name)) after := by
  rw [atom_eq, reference_of_identifier scope atName]
  exact orElse_of_applies (applies_andThen parser.applies_advance
    fun _ left => applies_ok _ left) _

theorem atom_of_leftParen {parser : Parser} (scope : Nat)
    (opening : parser.lookahead = .leftParen) :
    parser.atom scope =
      parser.advance.andThen fun () start =>
        ((start.expression scope).insist .expectedParenthesized).andThen
          closing := by
  rw [atom_eq, reference_of_not scope (by rw [opening]; rfl),
    orElse_notFound, parenthesized_eq, if_pos opening]

theorem atom_of_not {parser : Parser} (scope : Nat)
    (absent : parser.lookahead.beginsAtom = false) :
    parser.atom scope = .error .notFound parser := by
  rw [Token.beginsAtom, Bool.or_eq_false_iff] at absent
  have noParenthesis : parser.lookahead ≠ .leftParen := by
    intro opening
    rw [opening] at absent
    exact Bool.noConfusion absent.2
  rw [atom_eq, reference_of_not scope absent.1, orElse_notFound,
    parenthesized_of_ne scope noParenthesis]

theorem cases_of_beginsAtom {token : Token}
    (begins : token.beginsAtom = true) :
    (∃ name, token = .identifier name) ∨ token = .leftParen := by
  cases token with
  | identifier name =>
      exact Or.inl ⟨name, rfl⟩
  | leftParen =>
      exact Or.inr rfl
  | _ =>
      cases begins

theorem applies_atom {parser : Parser} (scope : Nat)
    (begins : parser.lookahead.beginsAtom = true) :
    (parser.atom scope).Applies := by
  rcases cases_of_beginsAtom begins with ⟨name, atName⟩ | opening
  · rw [atom_of_identifier scope atName]
    exact applies_andThen parser.applies_advance
      fun _ left => applies_ok _ left
  · rw [atom_of_leftParen scope opening]
    refine applies_andThen parser.applies_advance fun _ start => ?_
    exact applies_andThen (applies_insist _ nofun)
      fun inner left => left.applies_closing inner

/-! ## Expressions and operands -/

theorem expression_of_backslash {parser : Parser} (scope : Nat)
    (opening : parser.lookahead = .backslash) :
    parser.expression scope =
      (parser.openScope scope).2.abstraction (parser.openScope scope).1 := by
  have stillOpening : (parser.openScope scope).2.lookahead = .backslash :=
    opening
  rw [expression_eq]
  exact orElse_of_applies (applies_abstraction _ stillOpening) _

theorem expression_of_ne {parser : Parser} (scope : Nat)
    (absent : parser.lookahead ≠ .backslash) :
    parser.expression scope =
      (parser.openScope scope).2.application (parser.openScope scope).1 := by
  have stillAbsent : (parser.openScope scope).2.lookahead ≠ .backslash :=
    absent
  rw [expression_eq, abstraction_of_ne _ stillAbsent, orElse_notFound]

theorem operand_of_beginsAtom {parser : Parser} (scope : Nat)
    (begins : parser.lookahead.beginsAtom = true) :
    parser.operand scope = parser.atom scope := by
  rw [operand_eq]
  exact orElse_of_applies (applies_atom scope begins) _

theorem operand_of_not {parser : Parser} (scope : Nat)
    (absent : parser.lookahead.beginsAtom = false) :
    parser.operand scope =
      (parser.openScope scope).2.abstraction (parser.openScope scope).1 := by
  rw [operand_eq, atom_of_not scope absent, orElse_notFound]

theorem applies_operand {parser : Parser} (scope : Nat)
    (begins : parser.lookahead.beginsExpression = true) :
    (parser.operand scope).Applies := by
  by_cases beginsAtom : parser.lookahead.beginsAtom = true
  · rw [operand_of_beginsAtom scope beginsAtom]
    exact applies_atom scope beginsAtom
  · have absent : parser.lookahead.beginsAtom = false :=
      Bool.eq_false_iff.mpr beginsAtom
    have opening : parser.lookahead = .backslash := by
      rw [Token.beginsExpression, absent, Bool.false_or] at begins
      cases shown : parser.lookahead with
      | backslash =>
          rfl
      | _ =>
          rw [shown] at begins
          cases begins
    have stillOpening : (parser.openScope scope).2.lookahead = .backslash :=
      opening
    rw [operand_of_not scope absent]
    exact applies_abstraction _ stillOpening

/-- Where no operand can begin, the operands are complete. The scope that was
opened for the last trial stays. -/
theorem operands_of_not {parser : Parser} (scope : Nat) (operator : Term)
    (absent : parser.lookahead.beginsExpression = false) :
    parser.operands scope operator =
      .ok operator (parser.openScope scope).2 := by
  rw [Token.beginsExpression, Bool.or_eq_false_iff] at absent
  have noAbstraction :
      (parser.openScope scope).2.lookahead ≠ .backslash := by
    rw [lookahead_openScope]
    intro opening
    rw [opening] at absent
    exact Bool.noConfusion absent.2
  rw [operands_eq, operand_of_not scope absent.1,
    abstraction_of_ne _ noAbstraction, ifFound_notFound]

end Parser

end NumberedLambda
