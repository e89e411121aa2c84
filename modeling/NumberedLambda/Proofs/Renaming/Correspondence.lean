import NumberedLambda.Proofs.Nameless.Reading
import NumberedLambda.Proofs.Reduction.Contraction
import NumberedLambda.Term.AlphaEquivalence

/-!
# Terms with other bound identifiers

Below pairs of corresponding binders, a term is another one with its bound
identifiers renamed. This is what the equivalence of terms decides. Variables
correspond if they are read in the same way below the binders of their side,
so what holds of the reading of one term holds of both.
-/

namespace NumberedLambda

namespace Term

/-- The two terms are the same up to the choice of bound identifiers, below
binders that correspond to each other, innermost first. -/
inductive RenamedUnder :
    List (Identifier × Identifier) → Term → Term → Prop where
  | var {pairs : List (Identifier × Identifier)} {left right : Identifier} :
      namelessVariable (pairs.map Prod.fst) left =
        namelessVariable (pairs.map Prod.snd) right →
      RenamedUnder pairs (.var left) (.var right)
  | app {pairs : List (Identifier × Identifier)}
      {leftOperator rightOperator leftOperand rightOperand : Term} :
      RenamedUnder pairs leftOperator rightOperator →
      RenamedUnder pairs leftOperand rightOperand →
      RenamedUnder pairs (.app leftOperator leftOperand)
        (.app rightOperator rightOperand)
  | lam {pairs : List (Identifier × Identifier)}
      (parameters : List (Identifier × Identifier))
      {leftBody rightBody : Term} :
      RenamedUnder (parameters.reverse ++ pairs) leftBody rightBody →
      RenamedUnder pairs (.lam (parameters.map Prod.fst) leftBody)
        (.lam (parameters.map Prod.snd) rightBody)

/-! ## The decision -/

theorem sameVariable_iff {pairs : List (Identifier × Identifier)}
    {left right : Identifier} :
    sameVariable pairs left right = true ↔
      namelessVariable (pairs.map Prod.fst) left =
        namelessVariable (pairs.map Prod.snd) right := by
  have onLeft : pairs.findIdx? (fun pair => pair.1 = left) =
      (pairs.map Prod.fst).idxOf? left := by
    rw [List.idxOf?, List.findIdx?_map]
    rfl
  have onRight : pairs.findIdx? (fun pair => pair.2 = right) =
      (pairs.map Prod.snd).idxOf? right := by
    rw [List.idxOf?, List.findIdx?_map]
    rfl
  rw [sameVariable, onLeft, onRight, namelessVariable, namelessVariable]
  cases (pairs.map Prod.fst).idxOf? left <;>
    cases (pairs.map Prod.snd).idxOf? right <;> simp

theorem alphaEquivalentUnder_iff {pairs : List (Identifier × Identifier)}
    {left right : Term} :
    alphaEquivalentUnder pairs left right = true ↔
      RenamedUnder pairs left right := by
  fun_induction alphaEquivalentUnder pairs left right with
  | case1 pairs left right =>
      rw [sameVariable_iff]
      constructor
      · exact .var
      · rintro ⟨same⟩
        exact same
  | case2 pairs leftOperator leftOperand rightOperator rightOperand
      operatorHypothesis operandHypothesis =>
      rw [Bool.and_eq_true, operatorHypothesis, operandHypothesis]
      constructor
      · rintro ⟨operators, operands⟩
        exact .app operators operands
      · rintro ⟨⟩
        constructor <;> assumption
  | case3 pairs leftParameters leftBody rightParameters rightBody
      inductionHypothesis =>
      rw [Bool.and_eq_true, beq_iff_eq, inductionHypothesis]
      constructor
      · rintro ⟨sameLength, bodies⟩
        have renamed := RenamedUnder.lam _ bodies
        rwa [List.map_fst_zip (Nat.le_of_eq sameLength),
          List.map_snd_zip (Nat.le_of_eq sameLength.symm)] at renamed
      · intro renamed
        cases renamed with
        | lam parameters bodies =>
            have paired : parameters =
                (parameters.map Prod.fst).zip (parameters.map Prod.snd) :=
              List.zip_of_prod rfl rfl
            rw [← paired]
            exact ⟨by rw [List.length_map, List.length_map], bodies⟩
  | case4 pairs left right noVariables noApplications noAbstractions =>
      constructor
      · exact nofun
      · intro renamed
        cases renamed with
        | var same =>
            exact (noVariables _ _ rfl rfl).elim
        | app operators operands =>
            exact (noApplications _ _ _ _ rfl rfl).elim
        | lam parameters bodies =>
            exact (noAbstractions _ _ _ _ rfl rfl).elim

theorem RenamedUnder.symm {pairs : List (Identifier × Identifier)}
    {left right : Term} (renamed : RenamedUnder pairs left right) :
    RenamedUnder (pairs.map Prod.swap) right left := by
  have swapFst (list : List (Identifier × Identifier)) :
      (list.map Prod.swap).map Prod.fst = list.map Prod.snd := by
    rw [List.map_map]
    rfl
  have swapSnd (list : List (Identifier × Identifier)) :
      (list.map Prod.swap).map Prod.snd = list.map Prod.fst := by
    rw [List.map_map]
    rfl
  induction renamed with
  | var same =>
      refine .var ?_
      rw [swapFst, swapSnd]
      exact same.symm
  | app operators operands operatorHypothesis operandHypothesis =>
      exact .app operatorHypothesis operandHypothesis
  | lam parameters bodies inductionHypothesis =>
      rw [← swapFst parameters, ← swapSnd parameters]
      refine .lam _ ?_
      rw [← List.map_reverse, ← List.map_append]
      exact inductionHypothesis

theorem RenamedUnder.isLam_eq {pairs : List (Identifier × Identifier)}
    {left right : Term} (renamed : RenamedUnder pairs left right) :
    left.isLam = right.isLam := by
  cases renamed <;> rfl

theorem RenamedUnder.lam_inversion
    {pairs : List (Identifier × Identifier)} {parameters : List Identifier}
    {body right : Term} (renamed : RenamedUnder pairs (.lam parameters body)
      right) :
    ∃ (both : List (Identifier × Identifier)) (rightBody : Term),
      both.map Prod.fst = parameters ∧
      right = .lam (both.map Prod.snd) rightBody ∧
      RenamedUnder (both.reverse ++ pairs) body rightBody := by
  cases renamed with
  | lam both bodies =>
      exact ⟨both, _, rfl, rfl, bodies⟩

/-! ## Adding and removing binders -/

variable {inner outer : List (Identifier × Identifier)}
  {pair : Identifier × Identifier} {left right : Term}

theorem not_mem_map_below_iff {side : Identifier × Identifier → Identifier}
    {parameters : List (Identifier × Identifier)} {identifier : Identifier} :
    identifier ∉ (parameters.reverse ++ inner).map side ↔
      identifier ∉ parameters.map side ∧ identifier ∉ inner.map side := by
  rw [List.map_append, List.mem_append, not_or, List.map_reverse,
    List.mem_reverse]

/-- Binders `inserted` outside of the binders `passed` take no variable of a
term away. -/
def NotTakenBy (inserted passed : List Identifier) (term : Term) : Prop :=
  ∀ identifier ∈ term.free, identifier ∉ passed → identifier ∉ inserted

namespace NotTakenBy

variable {inserted passed parameters : List Identifier}
  {first second inside : Term}

theorem operator (kept : NotTakenBy inserted passed (.app first second)) :
    NotTakenBy inserted passed first :=
  fun identifier member => kept identifier (mem_free_app.mpr (Or.inl member))

theorem operand (kept : NotTakenBy inserted passed (.app first second)) :
    NotTakenBy inserted passed second :=
  fun identifier member => kept identifier (mem_free_app.mpr (Or.inr member))

theorem body (kept : NotTakenBy inserted passed (.lam parameters inside)) :
    NotTakenBy inserted (parameters.reverse ++ passed) inside := by
  intro identifier member unbound
  rw [List.mem_append, not_or, List.mem_reverse] at unbound
  exact kept identifier (mem_free_lam.mpr ⟨member, unbound.1⟩) unbound.2

end NotTakenBy

/-- Binders that are put between take no variable of either term away. -/
theorem RenamedUnder.insert {passed : List (Identifier × Identifier)}
    (inserted : List (Identifier × Identifier))
    (renamed : RenamedUnder (passed ++ outer) left right)
    (leftKept :
      NotTakenBy (inserted.map Prod.fst) (passed.map Prod.fst) left)
    (rightKept :
      NotTakenBy (inserted.map Prod.snd) (passed.map Prod.snd) right) :
    RenamedUnder (passed ++ (inserted ++ outer)) left right := by
  generalize shape : passed ++ outer = pairs at renamed
  induction renamed generalizing passed with
  | @var pairs left right same =>
      subst shape
      have leftRaised := (namelessUnder_append_append_iff _ _
        (outer.map Prod.fst) (Term.var left)).mpr leftKept
      have rightRaised := (namelessUnder_append_append_iff _ _
        (outer.map Prod.snd) (Term.var right)).mpr rightKept
      simp only [namelessUnder, ← List.map_append, List.length_map]
        at leftRaised rightRaised
      refine .var ?_
      rw [leftRaised, rightRaised, same]
  | app operators operands operatorHypothesis operandHypothesis =>
      exact .app
        (operatorHypothesis leftKept.operator rightKept.operator shape)
        (operandHypothesis leftKept.operand rightKept.operand shape)
  | lam parameters bodies inductionHypothesis =>
      subst shape
      refine .lam parameters ?_
      rw [← List.append_assoc]
      refine inductionHypothesis ?_ ?_ (List.append_assoc ..)
      · rw [List.map_append, List.map_reverse]
        exact leftKept.body
      · rw [List.map_append, List.map_reverse]
        exact rightKept.body

theorem getElem?_of_namelessVariable_eq {binders : List Identifier}
    {identifier : Identifier} {index : Nat}
    (reads : namelessVariable binders identifier = .bound index) :
    binders[index]? = some identifier := by
  unfold namelessVariable at reads
  split at reads
  · rename_i position found
    cases reads
    obtain ⟨inside, same, _⟩ := List.findIdx?_eq_some_iff_getElem.mp found
    rw [List.getElem?_eq_getElem inside]
    exact congrArg some (eq_of_beq same)
  · cases reads

theorem namelessVariable_of_visible {inner : List Identifier}
    {target : Identifier} (visible : target ∉ inner)
    (outer : List Identifier) :
    namelessVariable (inner ++ target :: outer) target =
      .bound inner.length := by
  rw [namelessVariable_append_of_not_mem visible, namelessVariable_cons_self,
    Nameless.raise, if_neg (Nat.not_lt_zero 0), Nat.zero_add]

theorem eq_target_of_namelessVariable {inner outer : List Identifier}
    {target identifier : Identifier}
    (reads : namelessVariable (inner ++ target :: outer) identifier =
      .bound inner.length) :
    identifier = target ∧ target ∉ inner := by
  have found := getElem?_of_namelessVariable_eq reads
  rw [List.getElem?_append_right (Nat.le_refl _), Nat.sub_self] at found
  cases found
  refine ⟨rfl, ?_⟩
  intro shadowed
  obtain ⟨index, inside, readsInside⟩ := exists_bound_of_mem shadowed
  rw [readsInside] at reads
  cases reads
  exact Nat.lt_irrefl _ inside

/-- If one side refers to a binder, the other side refers to its partner. -/
theorem RenamedUnder.refersTo_pair
    (renamed : RenamedUnder (inner ++ pair :: outer) left right)
    (refers : pair.1 ∈ left.free) (visible : pair.1 ∉ inner.map Prod.fst) :
    pair.2 ∈ right.free ∧ pair.2 ∉ inner.map Prod.snd := by
  generalize shape : inner ++ pair :: outer = pairs at renamed
  induction renamed generalizing inner with
  | var same =>
      cases mem_free_var.mp refers
      subst shape
      rw [List.map_append, List.map_append, List.map_cons, List.map_cons,
        namelessVariable_of_visible visible, List.length_map,
        ← List.length_map (f := Prod.snd)] at same
      obtain ⟨isPartner, partnerVisible⟩ :=
        eq_target_of_namelessVariable same.symm
      exact ⟨mem_free_var.mpr isPartner.symm, partnerVisible⟩
  | app operators operands operatorHypothesis operandHypothesis =>
      rcases mem_free_app.mp refers with inOperator | inOperand
      · obtain ⟨partner, partnerVisible⟩ :=
          operatorHypothesis inOperator visible shape
        exact ⟨mem_free_app.mpr (Or.inl partner), partnerVisible⟩
      · obtain ⟨partner, partnerVisible⟩ :=
          operandHypothesis inOperand visible shape
        exact ⟨mem_free_app.mpr (Or.inr partner), partnerVisible⟩
  | lam parameters bodies inductionHypothesis =>
      subst shape
      obtain ⟨inBody, noParameter⟩ := mem_free_lam.mp refers
      have visibleInBody : pair.1 ∉
          (parameters.reverse ++ inner).map Prod.fst :=
        not_mem_map_below_iff.mpr ⟨noParameter, visible⟩
      obtain ⟨partner, partnerInBody⟩ :=
        inductionHypothesis inBody visibleInBody (List.append_assoc ..)
      obtain ⟨noPartnerParameter, partnerVisible⟩ :=
        not_mem_map_below_iff.mp partnerInBody
      exact ⟨mem_free_lam.mpr ⟨partner, noPartnerParameter⟩, partnerVisible⟩

theorem RenamedUnder.refersTo_pair_iff
    (renamed : RenamedUnder (inner ++ pair :: outer) left right) :
    (pair.1 ∈ left.free ∧ pair.1 ∉ inner.map Prod.fst) ↔
      (pair.2 ∈ right.free ∧ pair.2 ∉ inner.map Prod.snd) := by
  constructor
  · rintro ⟨refers, visible⟩
    exact renamed.refersTo_pair refers visible
  · rintro ⟨refers, visible⟩
    have swapped := renamed.symm
    rw [List.map_append, List.map_cons] at swapped
    have visibleSwapped : pair.swap.1 ∉
        (inner.map Prod.swap).map Prod.fst := by
      rw [List.map_map]
      exact visible
    obtain ⟨partner, partnerVisible⟩ :=
      swapped.refersTo_pair refers visibleSwapped
    rw [List.map_map] at partnerVisible
    exact ⟨partner, partnerVisible⟩

theorem substitute_var_of_unused {inner outer : List Identifier}
    {target identifier : Identifier}
    (unused : target ∈ (var identifier).free → target ∈ inner) :
    (namelessVariable (inner ++ target :: outer) identifier).substitute
        inner.length (.bound 0) =
      namelessVariable (inner ++ outer) identifier :=
  substitute_namelessVariable
    (fun same => unused (mem_free_var.mpr same.symm)) outer (.bound 0)

/-- A pair of binders that nothing refers to can be taken away. -/
theorem RenamedUnder.remove
    (renamed : RenamedUnder (inner ++ pair :: outer) left right)
    (unused : pair.1 ∈ left.free → pair.1 ∈ inner.map Prod.fst) :
    RenamedUnder (inner ++ outer) left right := by
  generalize shape : inner ++ pair :: outer = pairs at renamed
  induction renamed generalizing inner with
  | @var pairs left right same =>
      subst shape
      have renamed : RenamedUnder (inner ++ pair :: outer) _ _ := .var same
      have rightUnused : pair.2 ∈ (Term.var right).free →
          pair.2 ∈ inner.map Prod.snd := by
        intro refers
        by_cases shadowed : pair.2 ∈ inner.map Prod.snd
        · exact shadowed
        · obtain ⟨partner, visible⟩ :=
            renamed.refersTo_pair_iff.mpr ⟨refers, shadowed⟩
          exact absurd (unused partner) visible
      rw [List.map_append, List.map_append, List.map_cons,
        List.map_cons] at same
      refine .var ?_
      rw [List.map_append, List.map_append,
        ← substitute_var_of_unused unused,
        ← substitute_var_of_unused rightUnused, same, List.length_map,
        List.length_map]
  | app operators operands operatorHypothesis operandHypothesis =>
      exact .app
        (operatorHypothesis
          (fun refers => unused (mem_free_app.mpr (Or.inl refers))) shape)
        (operandHypothesis
          (fun refers => unused (mem_free_app.mpr (Or.inr refers))) shape)
  | lam parameters bodies inductionHypothesis =>
      subst shape
      refine .lam parameters ?_
      rw [← List.append_assoc]
      refine inductionHypothesis ?_ (List.append_assoc ..)
      intro refers
      rw [List.map_append, List.mem_append, List.map_reverse,
        List.mem_reverse]
      by_cases shadowed : pair.1 ∈ parameters.map Prod.fst
      · exact Or.inl shadowed
      · exact Or.inr (unused (mem_free_lam.mpr ⟨refers, shadowed⟩))

end Term

end NumberedLambda
