import NumberedLambda.Proofs.Parsing.Derivation
import NumberedLambda.Proofs.Parsing.Scoping

/-!
# Terms that are read are numbered

If a scope resolves every name to the number of binders of that name around
the current place, a rule that is called in it answers with a term that is
numbered by these binders. The parameters of an abstraction are numbered one
after the other, each by what its name resolved to before, and the names of
one list are different, so all of them count the binders outside.
-/

namespace NumberedLambda

open ScopeTree (Extends Resolves)

namespace Parser

/-- Parameters that count the binders of the given names around their
abstraction, and a scope that knows them besides these binders. -/
structure Declares (scope : Nat) (names : List String)
    (declared : List Identifier) (parser : Parser) : Prop where
  inside : scope < parser.scopes.size
  number_eq : ∀ parameter ∈ declared,
    parameter.number = names.count parameter.name + 1
  resolves : parser.scopes.Resolves scope
    (declared.reverse.map Identifier.name ++ names)

theorem Declares.declare
    {scope : Nat} {names : List String} {declared : List Identifier}
    {parser : Parser} (declares : Declares scope names declared parser)
    {name : String} (fresh : name ∉ declared.map Identifier.name) :
    Declares scope names (declared ++ [(parser.declare scope name).1])
      (parser.declare scope name).2 where
  inside := by
    have extended := parser.scopes.extends_declare scope name
    exact Nat.lt_of_lt_of_le declares.inside extended.size_le
  number_eq := by
    intro parameter member
    rcases List.mem_append.mp member with earlier | atEnd
    · exact declares.number_eq parameter earlier
    · rw [List.mem_singleton] at atEnd
      have resolved := declares.resolves name
      have notDeclared :
          (declared.reverse.map Identifier.name).count name = 0 := by
        rw [List.count_eq_zero, List.map_reverse, List.mem_reverse]
        exact fresh
      rw [List.count_append, notDeclared, Nat.zero_add] at resolved
      rw [atEnd]
      exact congrArg (· + 1) resolved
  resolves := by
    have known := declares.resolves.declare declares.inside name
    rw [List.reverse_append, List.reverse_singleton, List.singleton_append]
    exact known

theorem declares_of_parameters
    {scope : Nat} {names : List String} {declared all : List Identifier}
    {parser ready : Parser}
    (list : parser.parameters scope declared = .ok all ready)
    (declares : Declares scope names declared parser) :
    Declares scope names all ready := by
  fun_induction parameters scope declared parser with
  | case1 declared parser name atName duplicate =>
      cases list
  | case2 declared parser name atName fresh after read
      inductionHypothesis =>
      have further := declares.declare (not_any_name_iff.mp fresh)
      have unchanged := scopes_of_advance read
      exact inductionHypothesis list
        ⟨unchanged ▸ further.inside, further.number_eq,
          unchanged ▸ further.resolves⟩
  | case3 declared parser name atName fresh error left read =>
      cases list
  | case4 declared parser others =>
      cases list
      exact declares

/-- After the part of an abstraction in front of its body, the scope knows the
parameters. -/
theorem declares_of_header
    {scope : Nat} {names : List String} {declared : List Identifier}
    {parser start : Parser}
    (list : parser.header scope = .ok declared start)
    (inside : scope < parser.scopes.size)
    (resolves : parser.scopes.Resolves scope names) :
    Declares scope names declared start := by
  obtain ⟨_, after, ready, _, read, found, _, readDot⟩ := header_eq_ok list
  have atNames := scopes_of_advance read
  have nothingDeclared : Declares scope names [] after :=
    ⟨atNames ▸ inside, nofun, atNames ▸ resolves⟩
  have declares := declares_of_parameters found nothingDeclared
  have atBody := scopes_of_advance readDot
  exact ⟨atBody ▸ declares.inside, declares.number_eq,
    atBody ▸ declares.resolves⟩

end Parser

/-- An operator that is applied to the operands of a task has been numbered by
the same binders. -/
def Task.NumberedUnder (names : List String) : Task → Prop
  | .operands operator => operator.NumberedUnder names
  | _ => True

/-- Every task is answered with a numbered term. -/
theorem numberedUnder_of_evaluates
    {task : Task} {scope : Nat} {parser : Parser} {answer : Answer Term}
    (evaluated : Evaluates task scope parser answer) :
    ∀ names, scope < parser.scopes.size →
      parser.scopes.Resolves scope names → task.NumberedUnder names →
      ∀ term after, answer = .ok term after →
        term.NumberedUnder names := by
  induction evaluated with
  | @expressionAbstraction scope parser answer opening evaluated
      inductionHypothesis =>
      intro names inside resolves _ term after found
      exact inductionHypothesis names (parser.openScope_lt scope)
        resolves.openChild trivial term after found
  | @expressionApplication scope parser answer noAbstraction evaluated
      inductionHypothesis =>
      intro names inside resolves _ term after found
      exact inductionHypothesis names (parser.openScope_lt scope)
        resolves.openChild trivial term after found
  | noAbstraction | headerFails | operatorFails | operandFails | noAtom
  | openingFails =>
      intro names inside resolves _ term after found
      cases found
  | @body scope parser start declared answer opening header evaluated
      inductionHypothesis =>
      intro names inside resolves _ term after found
      have declares := Parser.declares_of_header header inside resolves
      obtain ⟨body, left, read, last⟩ := Answer.exists_of_andThen_eq_ok found
      cases last
      have bodyNumbered :=
        inductionHypothesis _ declares.inside declares.resolves trivial body
          _ (Answer.eq_ok_of_insist read)
      exact ⟨declares.number_eq, bodyNumbered⟩
  | @operator scope parser left operator answer atom operands
      atomHypothesis operandsHypothesis =>
      intro names inside resolves _ term after found
      have extended := extends_of_evaluates atom inside
      have numbered :=
        atomHypothesis names inside resolves trivial operator left rfl
      exact operandsHypothesis names
        (Nat.lt_of_lt_of_le inside extended.size_le)
        (resolves.of_extends extended inside) numbered term after found
  | noOperand absent =>
      intro names inside resolves numbered term after found
      cases found
      exact numbered
  | @moreOperands scope parser left operator operand answer begins
      operandRead operandsRead operandHypothesis operandsHypothesis =>
      intro names inside resolves numbered term after found
      have extended := extends_of_evaluates operandRead inside
      have operandNumbered :=
        operandHypothesis names inside resolves trivial operand left rfl
      exact operandsHypothesis names
        (Nat.lt_of_lt_of_le inside extended.size_le)
        (resolves.of_extends extended inside) ⟨numbered, operandNumbered⟩
        term after found
  | operandAtom begins evaluated inductionHypothesis =>
      intro names inside resolves _ term after found
      exact inductionHypothesis names inside resolves trivial term after found
  | @operandAbstraction scope parser answer absent evaluated
      inductionHypothesis =>
      intro names inside resolves _ term after found
      exact inductionHypothesis names (parser.openScope_lt scope)
        resolves.openChild trivial term after found
  | @name scope parser name atName =>
      intro names inside resolves _ term after found
      obtain ⟨_, left, read, last⟩ := Answer.exists_of_andThen_eq_ok found
      cases last
      exact resolves name
  | @parenthesized scope parser start answer opening read evaluated
      inductionHypothesis =>
      intro names inside resolves _ term after found
      obtain ⟨inner, left, readInner, last⟩ :=
        Answer.exists_of_andThen_eq_ok found
      obtain ⟨rfl, _, _⟩ := Parser.closing_eq_ok last
      have unchanged := Parser.scopes_of_advance read
      exact inductionHypothesis names (unchanged ▸ inside)
        (unchanged ▸ resolves) trivial term left
        (Answer.eq_ok_of_insist readInner)

end NumberedLambda
