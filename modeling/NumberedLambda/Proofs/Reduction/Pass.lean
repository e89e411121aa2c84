import NumberedLambda.Proofs.Reduction.Contraction
import NumberedLambda.Proofs.Reduction.Parameters
import NumberedLambda.Term.Position

/-!
# Passes and capture

A pass contracts the outermost redexes of a term. On the nameless readings it
contracts the outermost redexes if and only if no contraction captures
anything, and then it is a sequence of single contractions.
-/

namespace NumberedLambda

namespace Term

/-- A pass captures nothing: at no outermost redex does a binder of the body,
or a parameter that stays, take a free identifier of the operand. -/
def CapturesNothing (term : Term) : Prop :=
  ∀ position ∈ term.outermostRedexes, ∀ parameter later body operand,
    term.part? position =
      some (.app (.lam (parameter :: later) body) operand) →
    (lam later body).CaptureFree parameter operand

theorem capturesNothing_var (identifier : Identifier) :
    (var identifier).CapturesNothing :=
  nofun

theorem capturesNothing_lam {parameters : List Identifier} {body : Term} :
    (lam parameters body).CapturesNothing ↔ body.CapturesNothing := by
  constructor
  · intro nothing position outermost
    exact nothing (.body :: position) (List.mem_map_of_mem outermost)
  · intro nothing position outermost
    obtain ⟨inBody, outermostInBody, rfl⟩ := List.mem_map.mp outermost
    exact nothing inBody outermostInBody

theorem capturesNothing_redex {parameter : Identifier}
    {later : List Identifier} {body operand : Term} :
    (app (lam (parameter :: later) body) operand).CapturesNothing ↔
      (lam later body).CaptureFree parameter operand := by
  constructor
  · intro nothing
    exact nothing [] (List.mem_singleton_self _) _ _ _ _ rfl
  · intro captureFree position outermost
    cases List.mem_singleton.mp outermost
    intro otherParameter otherLater otherBody otherOperand same
    cases same
    exact captureFree

theorem capturesNothing_app {operator operand : Term}
    (noRedex : operator.isLam = false) :
    (app operator operand).CapturesNothing ↔
      operator.CapturesNothing ∧ operand.CapturesNothing := by
  have positions : (app operator operand).outermostRedexes =
      operator.outermostRedexes.map (Turn.operator :: ·) ++
        operand.outermostRedexes.map (Turn.operand :: ·) := by
    simp [outermostRedexes, noRedex]
  constructor
  · intro nothing
    constructor
    · intro position outermost
      refine nothing (.operator :: position) ?_
      rw [positions]
      exact List.mem_append_left _ (List.mem_map_of_mem outermost)
    · intro position outermost
      refine nothing (.operand :: position) ?_
      rw [positions]
      exact List.mem_append_right _ (List.mem_map_of_mem outermost)
  · rintro ⟨inOperator, inOperand⟩ position outermost
    rw [positions] at outermost
    rcases List.mem_append.mp outermost with onLeft | onRight
    · obtain ⟨inside, outermostInside, rfl⟩ := List.mem_map.mp onLeft
      exact inOperator inside outermostInside
    · obtain ⟨inside, outermostInside, rfl⟩ := List.mem_map.mp onRight
      exact inOperand inside outermostInside

theorem namelessUnder_ne_lam {operator : Term}
    (noAbstraction : operator.isLam = false) (binders : List Identifier)
    (body : Nameless) : operator.namelessUnder binders ≠ .lam body := by
  cases operator with
  | var identifier =>
      rw [namelessUnder, namelessVariable]
      split <;> exact Nameless.noConfusion
  | app first second =>
      exact Nameless.noConfusion
  | lam parameters inner =>
      cases noAbstraction

/-- A pass contracts the outermost redexes of the nameless reading if and only
if it captures nothing. -/
theorem namelessUnder_pass_iff {term : Term}
    (proper : term.ProperParameters) (binders : List Identifier) :
    term.pass.namelessUnder binders =
        (term.namelessUnder binders).contractOutermost ↔
      term.CapturesNothing := by
  fun_induction pass term generalizing binders with
  | case1 identifier =>
      have noRedex : (namelessVariable binders identifier).contractOutermost =
          namelessVariable binders identifier := by
        rw [namelessVariable]
        split <;> rfl
      rw [namelessUnder, noRedex]
      exact ⟨fun _ => capturesNothing_var identifier, fun _ => rfl⟩
  | case2 parameters body inductionHypothesis =>
      rw [namelessUnder, namelessUnder,
        Nameless.contractOutermost_abstractions, Nameless.abstractions_inj,
        inductionHypothesis proper.body, capturesNothing_lam]
  | case3 parameters body operand =>
      obtain ⟨nonempty, nodup⟩ :=
        proper.operator parameters (List.mem_cons_self ..)
      obtain ⟨parameter, later, rfl⟩ := List.exists_cons_of_ne_nil nonempty
      have notRepeated : parameter ∉ later := (List.nodup_cons.mp nodup).1
      rw [namelessUnder_contract_iff binders notRepeated,
        capturesNothing_redex]
  | case4 operator operand noRedex operatorHypothesis operandHypothesis =>
      have noAbstraction := isLam_eq_false noRedex
      rw [namelessUnder, namelessUnder,
        Nameless.contractOutermost_app _
          (namelessUnder_ne_lam noAbstraction binders),
        Nameless.app.injEq, operatorHypothesis proper.operator,
        operandHypothesis proper.operand, capturesNothing_app noAbstraction]

/-- A pass that captures nothing is a sequence of contractions. -/
theorem steps_pass {term : Term} (proper : term.ProperParameters)
    (nothing : term.CapturesNothing) :
    Nameless.Steps term.nameless term.pass.nameless := by
  have contracted := (namelessUnder_pass_iff proper []).mpr nothing
  rw [nameless, nameless, contracted]
  exact Nameless.steps_contractOutermost _

theorem steps_passes {term : Term} (proper : term.ProperParameters)
    {count : Nat}
    (nothing : ∀ earlier < count, (passes earlier term).CapturesNothing) :
    Nameless.Steps term.nameless (passes count term).nameless := by
  induction count with
  | zero =>
      exact .refl _
  | succ count inductionHypothesis =>
      have earlierSteps := inductionHypothesis fun earlier before =>
        nothing earlier (Nat.lt_succ_of_lt before)
      have lastSteps :=
        steps_pass (proper.passes count) (nothing count (Nat.lt_succ_self _))
      rw [passes_succ]
      exact earlierSteps.trans lastSteps

end Term

end NumberedLambda
