import NumberedLambda.Term.Numbering
import NumberedLambda.Term.Reduction

/-!
# Parameter lists under reduction

Reduction copies lists of parameters and takes first parameters away, so every
list of parameters after a pass is the end of one before it, and no list
becomes empty. Lists that are nonempty and free of repetitions stay so.
-/

namespace NumberedLambda

namespace Term

theorem mem_parameterLists_of_replace
    {target : Identifier} {value term : Term} {parameters : List Identifier}
    (member : parameters ∈ (term.replace target value).parameterLists) :
    parameters ∈ term.parameterLists ∨
      parameters ∈ value.parameterLists := by
  induction term with
  | var identifier =>
      unfold replace at member
      split at member
      · exact Or.inr member
      · cases member
  | app operator operand operatorHypothesis operandHypothesis =>
      rcases List.mem_append.mp member with inOperator | inOperand
      · exact (operatorHypothesis inOperator).imp_left
          (List.mem_append_left _)
      · exact (operandHypothesis inOperand).imp_left
          (List.mem_append_right _)
  | lam others body inductionHypothesis =>
      unfold replace at member
      split at member
      · exact Or.inl member
      · rcases List.mem_cons.mp member with rfl | inBody
        · exact Or.inl (List.mem_cons_self ..)
        · exact (inductionHypothesis inBody).imp_left
            (List.mem_cons_of_mem _)

/-- A list of parameters comes from another one: it is an end of it, and it
is empty only if the other one is. -/
def ComesFrom (parameters original : List Identifier) : Prop :=
  parameters <:+ original ∧ (parameters = [] → original = [])

theorem comesFrom_self (parameters : List Identifier) :
    ComesFrom parameters parameters :=
  ⟨List.suffix_refl parameters, id⟩

theorem exists_comesFrom_of_contract
    {first parameters : List Identifier} {body operand : Term}
    (member : parameters ∈ (contract first body operand).parameterLists) :
    ∃ original ∈ (app (lam first body) operand).parameterLists,
      ComesFrom parameters original := by
  have inBodyOrOperand :
      parameters ∈ body.parameterLists ∨
          parameters ∈ operand.parameterLists →
        ∃ original ∈ (app (lam first body) operand).parameterLists,
          ComesFrom parameters original := by
    intro inside
    refine ⟨parameters, ?_, comesFrom_self parameters⟩
    rcases inside with inBody | inOperand
    · exact List.mem_append_left _ (List.mem_cons_of_mem _ inBody)
    · exact List.mem_append_right _ inOperand
  match first with
  | [] =>
      exact inBodyOrOperand (List.mem_append.mp member)
  | [parameter] =>
      exact inBodyOrOperand (mem_parameterLists_of_replace member)
  | parameter :: next :: later =>
      rcases List.mem_cons.mp member with rfl | inside
      · refine ⟨parameter :: next :: later,
          List.mem_append_left _ (List.mem_cons_self ..), ?_, ?_⟩
        · exact List.suffix_cons parameter (next :: later)
        · intro impossible
          cases impossible
      · exact inBodyOrOperand (mem_parameterLists_of_replace inside)

/-- Every list of parameters after a pass comes from one before it. -/
theorem exists_comesFrom_of_pass {term : Term}
    {parameters : List Identifier}
    (member : parameters ∈ term.pass.parameterLists) :
    ∃ original ∈ term.parameterLists, ComesFrom parameters original := by
  fun_induction pass term with
  | case1 identifier =>
      cases member
  | case2 others body inductionHypothesis =>
      rcases List.mem_cons.mp member with rfl | inBody
      · exact ⟨parameters, List.mem_cons_self .., comesFrom_self parameters⟩
      · obtain ⟨original, inOriginal, comesFrom⟩ :=
          inductionHypothesis inBody
        exact ⟨original, List.mem_cons_of_mem _ inOriginal, comesFrom⟩
  | case3 first body operand =>
      exact exists_comesFrom_of_contract member
  | case4 operator operand noRedex operatorHypothesis operandHypothesis =>
      rcases List.mem_append.mp member with inOperator | inOperand
      · obtain ⟨original, inOriginal, comesFrom⟩ :=
          operatorHypothesis inOperator
        exact ⟨original, List.mem_append_left _ inOriginal, comesFrom⟩
      · obtain ⟨original, inOriginal, comesFrom⟩ :=
          operandHypothesis inOperand
        exact ⟨original, List.mem_append_right _ inOriginal, comesFrom⟩

/-- Every list of parameters of a term is nonempty and free of
repetitions. -/
def ProperParameters (term : Term) : Prop :=
  ∀ parameters ∈ term.parameterLists, parameters ≠ [] ∧ parameters.Nodup

namespace ProperParameters

theorem operator {operator operand : Term}
    (proper : (app operator operand).ProperParameters) :
    operator.ProperParameters :=
  fun parameters member => proper parameters (List.mem_append_left _ member)

theorem operand {operator operand : Term}
    (proper : (app operator operand).ProperParameters) :
    operand.ProperParameters :=
  fun parameters member => proper parameters (List.mem_append_right _ member)

theorem body {parameters : List Identifier} {body : Term}
    (proper : (lam parameters body).ProperParameters) :
    body.ProperParameters :=
  fun others member => proper others (List.mem_cons_of_mem _ member)

theorem of_wellFormed {term : Term} (wellFormed : term.WellFormed) :
    term.ProperParameters := by
  intro parameters member
  refine ⟨wellFormed.parameters_ne_nil parameters member, ?_⟩
  exact (List.pairwise_map.mp (wellFormed.names_nodup parameters member)).imp
    fun different same => different (congrArg Identifier.name same)

theorem pass {term : Term} (proper : term.ProperParameters) :
    term.pass.ProperParameters := by
  intro parameters member
  obtain ⟨original, inTerm, isSuffix, emptyOnly⟩ :=
    exists_comesFrom_of_pass member
  obtain ⟨nonempty, nodup⟩ := proper original inTerm
  exact ⟨fun empty => nonempty (emptyOnly empty),
    isSuffix.sublist.nodup nodup⟩

theorem passes {term : Term} (proper : term.ProperParameters)
    (count : Nat) : (Term.passes count term).ProperParameters :=
  passes_induction (motive := ProperParameters)
    (fun _ stillProper => stillProper.pass) proper count

end ProperParameters

end Term

end NumberedLambda
