import NumberedLambda.Proofs.Reduction.Pass
import NumberedLambda.Proofs.Renaming.Correspondence

/-!
# Reduction of renamed terms

Substitution for corresponding identifiers keeps two terms renamed, as long as
nothing is captured on either side. Hence a pass that captures nothing in two
renamed terms leaves them renamed.
-/

namespace NumberedLambda

namespace Term

namespace RenamedUnder

variable {inner outer pairs : List (Identifier × Identifier)}
  {pair : Identifier × Identifier}
  {left right leftValue rightValue leftOperand rightOperand : Term}

theorem refersTo_iff_of_visible
    (renamed : RenamedUnder (inner ++ pair :: outer) left right)
    (leftVisible : pair.1 ∉ inner.map Prod.fst)
    (rightVisible : pair.2 ∉ inner.map Prod.snd) :
    pair.1 ∈ left.free ↔ pair.2 ∈ right.free := by
  have refers := renamed.refersTo_pair_iff
  simpa only [leftVisible, rightVisible, not_false_eq_true, and_true]
    using refers

/-- Substitution that captures nothing on either side keeps terms
renamed. -/
theorem replace
    (renamed : RenamedUnder (inner ++ pair :: outer) left right)
    (values : RenamedUnder outer leftValue rightValue)
    (leftVisible : pair.1 ∉ inner.map Prod.fst)
    (rightVisible : pair.2 ∉ inner.map Prod.snd)
    (leftKept :
      CaptureFreeBelow (inner.map Prod.fst) left pair.1 leftValue)
    (rightKept :
      CaptureFreeBelow (inner.map Prod.snd) right pair.2 rightValue) :
    RenamedUnder (inner ++ outer) (left.replace pair.1 leftValue)
      (right.replace pair.2 rightValue) := by
  generalize shape : inner ++ pair :: outer = pairs at renamed
  induction renamed generalizing inner with
  | @var pairs left right same =>
      subst shape
      have renamed : RenamedUnder (inner ++ pair :: outer) _ _ := .var same
      have bothOrNone : left = pair.1 ↔ right = pair.2 := by
        have refers :=
          renamed.refersTo_iff_of_visible leftVisible rightVisible
        rwa [mem_free_var, mem_free_var, eq_comm, eq_comm (a := pair.2)]
          at refers
      by_cases refers : left = pair.1
      · have partner := bothOrNone.mp refers
        rw [Term.replace, Term.replace, if_pos refers, if_pos partner]
        subst refers partner
        rw [captureFreeBelow_var_self] at leftKept rightKept
        have placed : RenamedUnder ([] ++ outer) leftValue rightValue :=
          values
        exact placed.insert inner
          (fun identifier member _ => leftKept identifier member)
          (fun identifier member _ => rightKept identifier member)
      · have noPartner : right ≠ pair.2 := fun partner =>
          refers (bothOrNone.mpr partner)
        rw [Term.replace, Term.replace, if_neg refers, if_neg noPartner]
        refine renamed.remove ?_
        intro member
        exact absurd (mem_free_var.mp member).symm refers
  | app operators operands operatorHypothesis operandHypothesis =>
      rw [captureFreeBelow_app] at leftKept rightKept
      exact .app
        (operatorHypothesis leftVisible rightVisible leftKept.1 rightKept.1
          shape)
        (operandHypothesis leftVisible rightVisible leftKept.2 rightKept.2
          shape)
  | @lam pairs parameters leftBody rightBody bodies inductionHypothesis =>
      subst shape
      have renamed : RenamedUnder (inner ++ pair :: outer) _ _ :=
        .lam parameters bodies
      have refers := renamed.refersTo_iff_of_visible leftVisible rightVisible
      by_cases shadowed : pair.1 ∈ parameters.map Prod.fst ∨
          pair.2 ∈ parameters.map Prod.snd
      · -- What is shadowed on one side is not referred to on the other.
        have leftUnused : pair.1 ∉
            (Term.lam (parameters.map Prod.fst) leftBody).free := by
          intro member
          have rightMember := refers.mp member
          exact shadowed.elim (mem_free_lam.mp member).2
            (mem_free_lam.mp rightMember).2
        have rightUnused := fun member => leftUnused (refers.mpr member)
        rw [replace_eq_self_of_not_mem_free leftUnused,
          replace_eq_self_of_not_mem_free rightUnused]
        exact renamed.remove fun member => absurd member leftUnused
      · rw [not_or] at shadowed
        rw [Term.replace, Term.replace, if_neg shadowed.1,
          if_neg shadowed.2]
        rw [captureFreeBelow_lam shadowed.1] at leftKept
        rw [captureFreeBelow_lam shadowed.2] at rightKept
        refine .lam parameters ?_
        rw [← List.append_assoc]
        refine inductionHypothesis ?_ ?_ ?_ ?_ (List.append_assoc ..)
        · exact not_mem_map_below_iff.mpr ⟨shadowed.1, leftVisible⟩
        · exact not_mem_map_below_iff.mpr ⟨shadowed.2, rightVisible⟩
        · rwa [List.map_append, List.map_reverse]
        · rwa [List.map_append, List.map_reverse]

/-- Contracting corresponding redexes keeps terms renamed. -/
theorem contract {parameters : List (Identifier × Identifier)}
    (bodies : RenamedUnder (parameters.reverse ++ pair :: outer) left right)
    (operands : RenamedUnder outer leftOperand rightOperand)
    (leftVisible : pair.1 ∉ parameters.map Prod.fst)
    (rightVisible : pair.2 ∉ parameters.map Prod.snd)
    (leftKept : (Term.lam (parameters.map Prod.fst) left).CaptureFree
      pair.1 leftOperand)
    (rightKept : (Term.lam (parameters.map Prod.snd) right).CaptureFree
      pair.2 rightOperand) :
    RenamedUnder outer
      (Term.contract (pair.1 :: parameters.map Prod.fst) left leftOperand)
      (Term.contract (pair.2 :: parameters.map Prod.snd) right
        rightOperand) := by
  rw [← captureFreeBelow_nil, captureFreeBelow_lam leftVisible,
    List.append_nil, ← List.map_reverse] at leftKept
  rw [← captureFreeBelow_nil, captureFreeBelow_lam rightVisible,
    List.append_nil, ← List.map_reverse] at rightKept
  rw [← List.mem_reverse, ← List.map_reverse] at leftVisible rightVisible
  have replaced := bodies.replace operands leftVisible rightVisible leftKept
    rightKept
  cases parameters with
  | nil =>
      exact replaced
  | cons next later =>
      exact .lam (next :: later) replaced

/-- A pass that captures nothing in either of two renamed terms leaves them
renamed. -/
theorem pass (renamed : RenamedUnder pairs left right)
    (leftProper : left.ProperParameters)
    (rightProper : right.ProperParameters)
    (leftKept : left.CapturesNothing) (rightKept : right.CapturesNothing) :
    RenamedUnder pairs left.pass right.pass := by
  fun_induction Term.pass left generalizing pairs right with
  | case1 identifier =>
      cases renamed with
      | var same =>
          exact .var same
  | case2 leftParameters leftBody inductionHypothesis =>
      cases renamed with
      | lam parameters bodies =>
          rw [capturesNothing_lam] at leftKept rightKept
          exact .lam parameters (inductionHypothesis bodies leftProper.body
            rightProper.body leftKept rightKept)
  | case3 leftParameters leftBody leftOperand =>
      cases renamed with
      | app operators operands =>
          cases operators with
          | lam parameters bodies =>
              obtain ⟨nonempty, leftNodup⟩ := leftProper.operator _
                (List.mem_cons_self ..)
              have rightNodup := (rightProper.operator _
                (List.mem_cons_self ..)).2
              cases parameters with
              | nil =>
                  exact absurd rfl nonempty
              | cons pair later =>
                  rw [List.map_cons] at leftKept rightKept
                  rw [capturesNothing_redex] at leftKept rightKept
                  rw [List.reverse_cons, List.append_assoc,
                    List.singleton_append] at bodies
                  exact bodies.contract operands
                    (List.nodup_cons.mp leftNodup).1
                    (List.nodup_cons.mp rightNodup).1 leftKept rightKept
  | case4 leftOperator leftOperand noRedex operatorHypothesis
      operandHypothesis =>
      cases renamed with
      | @app _ _ rightOperator _ rightOperand operators operands =>
          have leftNoRedex := isLam_eq_false noRedex
          have rightNoRedex : rightOperator.isLam = false :=
            operators.isLam_eq.symm.trans leftNoRedex
          rw [capturesNothing_app leftNoRedex] at leftKept
          rw [capturesNothing_app rightNoRedex] at rightKept
          rw [pass_app_of_not_isLam rightOperand rightNoRedex]
          exact .app
            (operatorHypothesis operators leftProper.operator
              rightProper.operator leftKept.1 rightKept.1)
            (operandHypothesis operands leftProper.operand
              rightProper.operand leftKept.2 rightKept.2)

end RenamedUnder

end Term

end NumberedLambda
