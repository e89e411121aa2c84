import Mathlib
import NumberedLambda.Proofs.Numbering.Stacks
import NumberedLambda.Proofs.Parsing.Acceptance
import NumberedLambda.Proofs.Parsing.Numbering

/-!
# Lexical scope

Every term that is read from a source text is numbered, its lists of
parameters are nonempty and free of repetitions, and its free identifiers have
number zero. So a variable has the identifier of the innermost binder of its
name, and of no other binder around it.
-/

namespace NumberedLambda

open Grammar

/-! ## Lists of parameters -/

namespace Skeleton

/-- The names of the parameter lists in a tree. -/
def nameLists : Skeleton → List (List String)
  | .var _ => []
  | .app operator operand => operator.nameLists ++ operand.nameLists
  | .lam names body => names :: body.nameLists

end Skeleton

theorem Term.nameLists_skeleton (term : Term) :
    term.skeleton.nameLists =
      term.parameterLists.map fun parameters =>
        parameters.map Identifier.name := by
  induction term with
  | var identifier =>
      rfl
  | app operator operand operatorHypothesis operandHypothesis =>
      simp only [skeleton, Skeleton.nameLists, parameterLists,
        operatorHypothesis, operandHypothesis, List.map_append]
  | lam parameters body inductionHypothesis =>
      simp only [skeleton, Skeleton.nameLists, parameterLists,
        inductionHypothesis, List.map_cons]

theorem Grammar.nameLists_of_derives
    {phrase : Phrase} {tokens : List Token} {tree : Skeleton}
    (derivation : Derives phrase tokens tree) :
    ∀ names ∈ tree.nameLists, names ≠ [] ∧ names.Nodup := by
  induction derivation with
  | name name =>
      intro names member
      cases member
  | parenthesized inner inductionHypothesis
  | oneAtom inner inductionHypothesis
  | bareAbstraction inner inductionHypothesis
  | application inner inductionHypothesis =>
      exact inductionHypothesis
  | moreAtoms first last firstHypothesis lastHypothesis
  | trailingAbstraction first last firstHypothesis lastHypothesis =>
      intro names member
      rcases List.mem_append.mp member with inOperator | inOperand
      · exact firstHypothesis names inOperator
      · exact lastHypothesis names inOperand
  | abstraction nonempty distinct inner inductionHypothesis =>
      intro names member
      rcases List.mem_cons.mp member with rfl | inBody
      · exact ⟨nonempty, distinct⟩
      · exact inductionHypothesis names inBody

namespace Parser

theorem names_of_parse
    {parser after : Parser} {term : Term}
    (parsed : parser.parse = .ok term after) :
    ∀ parameters ∈ term.parameterLists, parameters ≠ [] ∧
      (parameters.map Identifier.name).Nodup := by
  obtain ⟨newLines, sentence, _, derivation, _⟩ := (faces_of_parse parsed).1
  intro parameters member
  have mapped :
      parameters.map Identifier.name ∈ term.skeleton.nameLists := by
    rw [Term.nameLists_skeleton]
    exact List.mem_map.mpr ⟨parameters, member, rfl⟩
  obtain ⟨nonempty, distinct⟩ := nameLists_of_derives derivation _ mapped
  exact ⟨by simpa using nonempty, distinct⟩

/-- A term that is read is numbered: its scopes begin with one in which every
name is free. -/
theorem numbered_of_parse
    {parser after : Parser} {term : Term}
    (parsed : parser.parse = .ok term after) : term.Numbered := by
  obtain ⟨ready, left, _, _, read, _⟩ := parse_eq_ok_iff.mp parsed
  have inside : 0 < ScopeTree.root.size := by
    decide
  exact numberedUnder_of_evaluates
    (evaluates .expression 0 { ready with scopes := .root }) [] inside
    (ScopeTree.resolves_root 0) trivial term left read

end Parser

namespace Term

/-! ## Variables and binders of a numbered term -/

theorem number_pos_of_numberedUnder {term : Term} {names : List String}
    (numbered : term.NumberedUnder names) :
    ∀ binder ∈ term.binders, 0 < binder.number := by
  induction term generalizing names with
  | var identifier =>
      intro binder member
      cases member
  | app operator operand operatorHypothesis operandHypothesis =>
      intro binder member
      rw [binders_app] at member
      rcases List.mem_append.mp member with inOperator | inOperand
      · exact operatorHypothesis numbered.1 binder inOperator
      · exact operandHypothesis numbered.2 binder inOperand
  | lam parameters body inductionHypothesis =>
      intro binder member
      rw [binders_lam] at member
      rcases List.mem_append.mp member with parameter | inBody
      · rw [numbered.1 binder parameter]
        exact Nat.succ_pos _
      · exact inductionHypothesis numbered.2 binder inBody

/-- A variable of a numbered term is the innermost binder of its name, or no
binder around it has its name. -/
theorem bound_or_free_of_numbered
    {term : Term} {identifier : Identifier} {binders : List Identifier}
    (numbered : term.Numbered)
    (distinct : ∀ parameters ∈ term.parameterLists,
      (parameters.map Identifier.name).Nodup)
    (occurs : OccursUnder (.var identifier) binders term) :
    (binders.find? (fun binder => binder.name = identifier.name) =
        some identifier) ∨
      identifier.number = 0 ∧
        identifier.name ∉ binders.map Identifier.name := by
  have number : identifier.number =
      (binders.map Identifier.name ++ []).count identifier.name :=
    numberedUnder_of_occursUnder occurs numbered
  by_cases bound : identifier.name ∈ binders.map Identifier.name
  · have stacked := stackedOn_of_occursUnder occurs numbered distinct
    left
    rw [stacked.find?_eq bound, ← number]
  · right
    rw [List.append_nil, List.count_eq_zero.mpr bound] at number
    exact ⟨number, bound⟩

theorem number_of_mem_free_of_numbered
    {term : Term} {identifier : Identifier} (numbered : term.Numbered)
    (distinct : ∀ parameters ∈ term.parameterLists,
      (parameters.map Identifier.name).Nodup)
    (member : identifier ∈ term.free) : identifier.number = 0 := by
  have counted :=
    number_of_mem_free_of_numberedUnder numbered distinct member
  rw [counted, List.count_nil]

theorem exists_parser_of_parse {source : String} {term : Term}
    (parsed : Term.parse source = .ok term) :
    ∃ parser after, Parser.parse parser = .ok term after := by
  unfold Term.parse at parsed
  cases started : Parser.start .silent source with
  | error error left =>
      rw [started] at parsed
      cases parsed
  | ok value parser =>
      rw [started, Answer.andThen_ok] at parsed
      cases read : parser.parse with
      | error error left =>
          rw [read] at parsed
          cases parsed
      | ok found after =>
          rw [read] at parsed
          cases parsed
          exact ⟨parser, after, read⟩

end Term

namespace Parser

theorem wellFormed_of_parse
    {parser after : Parser} {term : Term}
    (parsed : parser.parse = .ok term after) : term.WellFormed where
  parameters_ne_nil := fun parameters member =>
    (names_of_parse parsed parameters member).1
  names_nodup := fun parameters member =>
    (names_of_parse parsed parameters member).2
  number_pos := Term.number_pos_of_numberedUnder (numbered_of_parse parsed)
  number_of_free := fun _ member =>
    Term.number_of_mem_free_of_numbered (numbered_of_parse parsed)
      (fun parameters inTerm => (names_of_parse parsed parameters inTerm).2)
      member

open Term (OccursUnder)

/-- In a term that is read, every parameter has one more than the number of
binders of its name around its abstraction, and every variable has the number
of binders of its name around it. The binders on the way to a variable are all
different. If one of them has the name of the variable, the innermost one of
that name is equal to the variable and no other is; if none has, the variable
has number zero. -/
theorem parse_is_lexically_scoped
    {parser after : Parser} {term : Term}
    (parsed : parser.parse = .ok term after) :
    (∀ parameters body binders,
      OccursUnder (.lam parameters body) binders term →
      ∀ parameter ∈ parameters, parameter.number =
        1 + (binders.map Identifier.name).count parameter.name) ∧
    ∀ identifier binders, OccursUnder (.var identifier) binders term →
      identifier.number =
        (binders.map Identifier.name).count identifier.name ∧
      binders.Nodup ∧
      (binders.find? (fun binder => binder.name = identifier.name) =
          some identifier ∧ binders.count identifier = 1 ∨
        identifier.name ∉ binders.map Identifier.name ∧
          identifier.number = 0) := by
  have numbered := numbered_of_parse parsed
  have distinct : ∀ parameters ∈ term.parameterLists,
      (parameters.map Identifier.name).Nodup := fun parameters member =>
    (names_of_parse parsed parameters member).2
  constructor
  · intro parameters body binders occurs parameter member
    have numberedPart := Term.numberedUnder_of_occursUnder occurs numbered
    rw [List.append_nil] at numberedPart
    rw [numberedPart.1 parameter member, Nat.add_comm]
  · intro identifier binders occurs
    have number : identifier.number =
        (binders.map Identifier.name ++ []).count identifier.name :=
      Term.numberedUnder_of_occursUnder occurs numbered
    rw [List.append_nil] at number
    have nodup : binders.Nodup :=
      (Term.stackedOn_of_occursUnder occurs numbered distinct).nodup
    refine ⟨number, nodup, ?_⟩
    rcases Term.bound_or_free_of_numbered numbered distinct occurs with
      found | ⟨zero, unbound⟩
    · have member := List.mem_of_find?_eq_some found
      have once : binders.count identifier = 1 := by
        rw [nodup.count, if_pos member]
      exact Or.inl ⟨found, once⟩
    · exact Or.inr ⟨unbound, zero⟩

/-- In `\x. x (\x. x)` both binders have the same name, and every variable
counts the binders around it. -/
theorem shadowed_name_is_lexically_scoped :
    ∃ parser term after, Parser.parse parser = .ok term after ∧
      term = .lam [⟨"x", 1⟩]
        (.app (.var ⟨"x", 1⟩) (.lam [⟨"x", 2⟩] (.var ⟨"x", 2⟩))) ∧
      ∀ identifier binders, OccursUnder (.var identifier) binders term →
        identifier.number =
          (binders.map Identifier.name).count identifier.name := by
  have read : Term.parse "\\x. x (\\x. x)" =
      .ok (.lam [⟨"x", 1⟩]
        (.app (.var ⟨"x", 1⟩) (.lam [⟨"x", 2⟩] (.var ⟨"x", 2⟩)))) := by
    cbv
  obtain ⟨parser, after, parsed⟩ := Term.exists_parser_of_parse read
  refine ⟨parser, _, after, parsed, rfl, ?_⟩
  intro identifier binders occurs
  exact ((parse_is_lexically_scoped parsed).2 identifier binders occurs).1

end Parser

end NumberedLambda
