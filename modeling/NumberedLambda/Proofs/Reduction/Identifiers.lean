import NumberedLambda.Proofs.Numbering.LexicalScope
import NumberedLambda.Proofs.Reduction.Parameters

/-!
# The identifiers of a run

A pass makes no identifier that was not there before, and it sets none free:
a variable that it moves out of an abstraction is one that the abstraction did
not bind. A capture does not change this, since it only takes identifiers away
from the free ones. So what a source text guarantees of its term, every pass
keeps (`WellFormed.pass`), however long the run is.
-/

namespace NumberedLambda

namespace Term

/-! ## Free identifiers -/

theorem free_contract_subset
    {parameters : List Identifier} {body operand : Term} :
    (contract parameters body operand).free ⊆
      (app (lam parameters body) operand).free := by
  intro identifier member
  -- All cases come down to this one: the first parameter is replaced, and the
  -- later ones stay around the body.
  have replaced :
      ∀ parameter later,
        identifier ∈ (body.replace parameter operand).free →
        identifier ∉ later →
        identifier ∈ (app (lam (parameter :: later) body) operand).free := by
    intro parameter later inReplaced unbound
    rw [mem_free_app, mem_free_lam, List.mem_cons, not_or]
    rcases mem_free_of_mem_free_replace inReplaced with
      ⟨inBody, different⟩ | inOperand
    · exact Or.inl ⟨inBody, different, unbound⟩
    · exact Or.inr inOperand
  match parameters with
  | [] =>
      simpa [contract] using member
  | [parameter] =>
      exact replaced parameter [] member List.not_mem_nil
  | parameter :: next :: later =>
      obtain ⟨inReplaced, unbound⟩ := mem_free_lam.mp member
      exact replaced parameter (next :: later) inReplaced unbound

/-- A pass sets no identifier free. -/
theorem free_pass_subset (term : Term) : term.pass.free ⊆ term.free := by
  fun_induction pass term with
  | case1 identifier =>
      exact List.Subset.refl _
  | case2 parameters body inductionHypothesis =>
      intro identifier member
      obtain ⟨inBody, unbound⟩ := mem_free_lam.mp member
      exact mem_free_lam.mpr ⟨inductionHypothesis inBody, unbound⟩
  | case3 parameters body operand =>
      exact free_contract_subset
  | case4 operator operand noRedex operatorHypothesis operandHypothesis =>
      intro identifier member
      rw [mem_free_app] at member ⊢
      exact member.imp (fun inOperator => operatorHypothesis inOperator)
        fun inOperand => operandHypothesis inOperand

/-! ## Identifiers that occur -/

theorem mem_occurrences_of_replace
    {target identifier : Identifier} {value term : Term}
    (member : identifier ∈ (term.replace target value).occurrences) :
    identifier ∈ term.occurrences ∨ identifier ∈ value.occurrences := by
  induction term with
  | var occurring =>
      unfold replace at member
      split at member
      · exact Or.inr member
      · exact Or.inl member
  | app operator operand operatorHypothesis operandHypothesis =>
      rcases List.mem_append.mp member with inOperator | inOperand
      · exact (operatorHypothesis inOperator).imp_left
          (List.mem_append_left _)
      · exact (operandHypothesis inOperand).imp_left
          (List.mem_append_right _)
  | lam parameters body inductionHypothesis =>
      unfold replace at member
      split at member
      · exact Or.inl member
      · exact inductionHypothesis member

theorem occurrences_contract_subset
    {parameters : List Identifier} {body operand : Term} :
    (contract parameters body operand).occurrences ⊆
      (app (lam parameters body) operand).occurrences := by
  intro identifier member
  have replaced : ∀ parameter,
      identifier ∈ (body.replace parameter operand).occurrences →
      identifier ∈ (app (lam parameters body) operand).occurrences := by
    intro parameter inReplaced
    have inEither := mem_occurrences_of_replace inReplaced
    exact List.mem_append.mpr inEither
  match parameters with
  | [] =>
      exact member
  | [parameter] =>
      exact replaced parameter member
  | parameter :: next :: later =>
      exact replaced parameter member

theorem occurrences_pass_subset (term : Term) :
    term.pass.occurrences ⊆ term.occurrences := by
  fun_induction pass term with
  | case1 identifier =>
      exact List.Subset.refl _
  | case2 parameters body inductionHypothesis =>
      exact inductionHypothesis
  | case3 parameters body operand =>
      exact occurrences_contract_subset
  | case4 operator operand noRedex operatorHypothesis operandHypothesis =>
      intro identifier member
      rw [occurrences, List.mem_append] at member ⊢
      exact member.imp (fun inOperator => operatorHypothesis inOperator)
        fun inOperand => operandHypothesis inOperand

/-- Every binder after a pass was a binder before it. -/
theorem binders_pass_subset (term : Term) :
    term.pass.binders ⊆ term.binders := by
  intro binder member
  obtain ⟨parameters, inLists, inParameters⟩ := List.mem_flatten.mp member
  obtain ⟨original, inTerm, isSuffix, _⟩ := exists_comesFrom_of_pass inLists
  exact List.mem_flatten.mpr ⟨original, inTerm, isSuffix.subset inParameters⟩

theorem identifiers_pass_subset (term : Term) :
    term.pass.identifiers ⊆ term.identifiers := by
  intro identifier member
  rw [identifiers, List.mem_append] at member ⊢
  exact member.imp (fun inBinders => term.binders_pass_subset inBinders)
    fun inOccurrences => term.occurrences_pass_subset inOccurrences

/-! ## Whole runs -/

/-- A pass keeps terms well formed, also where it captures. -/
theorem WellFormed.pass {term : Term} (wellFormed : term.WellFormed) :
    term.pass.WellFormed where
  parameters_ne_nil := by
    intro parameters member empty
    obtain ⟨original, inTerm, _, emptyOnly⟩ :=
      exists_comesFrom_of_pass member
    exact wellFormed.parameters_ne_nil original inTerm (emptyOnly empty)
  names_nodup := by
    intro parameters member
    obtain ⟨original, inTerm, isSuffix, _⟩ := exists_comesFrom_of_pass member
    have names := wellFormed.names_nodup original inTerm
    exact (isSuffix.sublist.map Identifier.name).nodup names
  number_pos := fun binder member =>
    wellFormed.number_pos binder (term.binders_pass_subset member)
  number_of_free := fun identifier member =>
    wellFormed.number_of_free identifier (term.free_pass_subset member)

theorem WellFormed.passes {term : Term} (wellFormed : term.WellFormed)
    (count : Nat) : (Term.passes count term).WellFormed :=
  passes_induction (motive := WellFormed) (fun _ => WellFormed.pass)
    wellFormed count

/-- A variable with a number other than zero stands below a binder with its
identifier. -/
theorem WellFormed.mem_of_occursUnder {term : Term}
    (wellFormed : term.WellFormed) {identifier : Identifier}
    {binders : List Identifier}
    (occurs : OccursUnder (.var identifier) binders term)
    (numbered : identifier.number ≠ 0) : identifier ∈ binders := by
  by_contra unbound
  apply numbered
  apply wellFormed.number_of_free
  exact mem_free_iff_occursUnder.mpr ⟨binders, occurs, unbound⟩

theorem identifiers_passes_subset (count : Nat) (term : Term) :
    (passes count term).identifiers ⊆ term.identifiers := by
  apply passes_induction
    (motive := fun reached => reached.identifiers ⊆ term.identifiers)
  · intro reached subset
    exact List.Subset.trans reached.identifiers_pass_subset subset
  · exact List.Subset.refl _

theorem free_passes_subset (count : Nat) (term : Term) :
    (passes count term).free ⊆ term.free := by
  apply passes_induction
    (motive := fun reached => reached.free ⊆ term.free)
  · intro reached subset
    exact List.Subset.trans reached.free_pass_subset subset
  · exact List.Subset.refl _

/-- Whatever passes make of a term that is read, lists of parameters are
nonempty and have no name twice, binders have positive numbers, every variable
with another number than zero stands below a binder with its identifier, and
every identifier is one of the term that was read. No pass sets an identifier
free, so free identifiers have number zero, and what is closed stays closed. -/
theorem wellFormed_in_every_state
    {parser after : Parser} {term : Term}
    (parsed : parser.parse = .ok term after) (count : Nat) :
    (∀ parameters ∈ (passes count term).parameterLists,
      parameters ≠ [] ∧ (parameters.map Identifier.name).Nodup) ∧
    (∀ binder ∈ (passes count term).binders, 1 ≤ binder.number) ∧
    (∀ identifier binders,
      OccursUnder (.var identifier) binders (passes count term) →
      identifier.number ≠ 0 → identifier ∈ binders) ∧
    (passes count term).identifiers ⊆ term.identifiers ∧
    (passes (count + 1) term).free ⊆ (passes count term).free ∧
    (∀ identifier ∈ (passes count term).free, identifier.number = 0) ∧
    (term.free = [] → (passes count term).free = []) := by
  have wellFormed := (Parser.wellFormed_of_parse parsed).passes count
  refine ⟨?_, wellFormed.number_pos, ?_, identifiers_passes_subset count term,
    ?_, wellFormed.number_of_free, ?_⟩
  · intro parameters member
    exact ⟨wellFormed.parameters_ne_nil parameters member,
      wellFormed.names_nodup parameters member⟩
  · intro identifier binders occurs numbered
    exact wellFormed.mem_of_occursUnder occurs numbered
  · rw [passes_succ]
    exact free_pass_subset _
  · intro closed
    have subset := free_passes_subset count term
    rw [closed] at subset
    exact List.subset_nil.mp subset

/-- The second pass over `(\g y. g y) (\x y. x)` captures a variable, and still
it leaves a term whose variable stands below a binder with its identifier. -/
theorem wellFormed_after_capture :
    ∃ parser term after, Parser.parse parser = .ok term after ∧
      Term.parse "(\\g y. g y) (\\x y. x)" = .ok term ∧
      passes 2 term = .lam [⟨"y", 1⟩] (.lam [⟨"y", 1⟩] (.var ⟨"y", 1⟩)) ∧
      ∀ identifier binders,
        OccursUnder (.var identifier) binders (passes 2 term) →
        identifier.number ≠ 0 → identifier ∈ binders := by
  have read : Term.parse "(\\g y. g y) (\\x y. x)" =
      .ok (.app
        (.lam [⟨"g", 1⟩, ⟨"y", 1⟩] (.app (.var ⟨"g", 1⟩) (.var ⟨"y", 1⟩)))
        (.lam [⟨"x", 1⟩, ⟨"y", 1⟩] (.var ⟨"x", 1⟩))) := by
    cbv
  obtain ⟨parser, after, parsed⟩ := exists_parser_of_parse read
  refine ⟨parser, _, after, parsed, read, by decide, ?_⟩
  exact (wellFormed_in_every_state parsed 2).2.2.1

end Term

end NumberedLambda
