import NumberedLambda.Proofs.Reduction.Convergence
import NumberedLambda.Proofs.Reduction.Counting
import NumberedLambda.Proofs.Reduction.Identifiers
import NumberedLambda.Proofs.Reduction.Pass

/-!
# Terms with independent binders

Passes do not rename, so they can capture, and they can copy a redex, so they
need not end. Neither happens in a term whose binders are all different, are
not free in the term, and are used at most once each. No binder can take a
free identifier of an operand, since that would be free around the redex too;
and what a contraction moves, it moves to one place at most. So a pass keeps
the binders independent and makes the term smaller unless it leaves it as it
is, and a run ends before it has made as many passes as the term has nodes.
-/

namespace NumberedLambda

namespace Term

/-- The binders of a term have nothing to do with each other: they are
different, none of them is free in the term, and each is used at most once. -/
structure Independent (term : Term) : Prop where
  proper : term.ProperParameters
  binders_nodup : term.binders.Nodup
  not_free : ∀ binder ∈ term.binders, binder ∉ term.free
  affine : term.Affine

/-- Numbers that are positive at binders only keep the binders apart from the
free identifiers. -/
theorem Independent.of_wellFormed {term : Term}
    (wellFormed : term.WellFormed) (distinct : term.DistinctNames)
    (affine : term.Affine) : term.Independent where
  proper := .of_wellFormed wellFormed
  binders_nodup := List.Nodup.of_map Identifier.name distinct
  not_free := by
    intro binder bound unbound
    have positive := wellFormed.number_pos binder bound
    have zero := wellFormed.number_of_free binder unbound
    omega
  affine := affine

namespace Independent

theorem operator {operator operand : Term}
    (independent : (app operator operand).Independent) :
    operator.Independent where
  proper := independent.proper.operator
  binders_nodup := by
    have nodup := independent.binders_nodup
    rw [binders_app] at nodup
    exact nodup.sublist (List.sublist_append_left _ _)
  not_free := by
    intro binder bound unbound
    apply independent.not_free binder
    · rw [binders_app]
      exact List.mem_append_left _ bound
    · exact mem_free_app.mpr (Or.inl unbound)
  affine := independent.affine.1

theorem operand {operator operand : Term}
    (independent : (app operator operand).Independent) :
    operand.Independent where
  proper := independent.proper.operand
  binders_nodup := by
    have nodup := independent.binders_nodup
    rw [binders_app] at nodup
    exact nodup.sublist (List.sublist_append_right _ _)
  not_free := by
    intro binder bound unbound
    apply independent.not_free binder
    · rw [binders_app]
      exact List.mem_append_right _ bound
    · exact mem_free_app.mpr (Or.inr unbound)
  affine := independent.affine.2

theorem body {parameters : List Identifier} {body : Term}
    (independent : (lam parameters body).Independent) :
    body.Independent := by
  have nodup := independent.binders_nodup
  rw [binders_lam] at nodup
  obtain ⟨_, bodyNodup, disjoint⟩ := List.nodup_append.mp nodup
  refine ⟨independent.proper.body, bodyNodup, ?_, independent.affine.2⟩
  intro binder bound unbound
  by_cases isParameter : binder ∈ parameters
  · exact disjoint binder isParameter binder bound rfl
  · apply independent.not_free binder
    · rw [binders_lam]
      exact List.mem_append_right _ bound
    · exact mem_free_lam.mpr ⟨unbound, isParameter⟩

end Independent

/-! ## No capture -/

theorem mem_binders_of_occursUnder {part term : Term}
    {passed : List Identifier} (occurs : OccursUnder part passed term)
    {binder : Identifier} (member : binder ∈ passed) :
    binder ∈ term.binders := by
  induction occurs with
  | here =>
      cases member
  | operator operand occurs inductionHypothesis =>
      rw [binders_app]
      exact List.mem_append_left _ (inductionHypothesis member)
  | operand operator occurs inductionHypothesis =>
      rw [binders_app]
      exact List.mem_append_right _ (inductionHypothesis member)
  | body parameters occurs inductionHypothesis =>
      rw [binders_lam]
      rcases List.mem_append.mp member with further | isParameter
      · exact List.mem_append_right _ (inductionHypothesis further)
      · exact List.mem_append_left _ (List.mem_reverse.mp isParameter)

/-- No binder that stays after the contraction of a redex is free in the
operand, because it would be free in the whole redex. -/
theorem Independent.not_free_operand {parameter : Identifier}
    {later : List Identifier} {body operand : Term}
    (independent :
      (app (lam (parameter :: later) body) operand).Independent) :
    ∀ binder ∈ (lam later body).binders, binder ∉ operand.free := by
  intro binder bound inOperand
  apply independent.not_free binder
  · rw [binders_app, binders_lam, List.cons_append, ← binders_lam]
    exact List.mem_append_left _ (List.mem_cons_of_mem _ bound)
  · exact mem_free_app.mpr (Or.inr inOperand)

theorem Independent.capturesNothing {term : Term}
    (independent : term.Independent) : term.CapturesNothing := by
  fun_induction pass term with
  | case1 identifier =>
      exact capturesNothing_var identifier
  | case2 parameters body inductionHypothesis =>
      exact capturesNothing_lam.mpr (inductionHypothesis independent.body)
  | case3 parameters body operand =>
      have nonempty : parameters ≠ [] :=
        (independent.operator.proper parameters (List.mem_cons_self ..)).1
      obtain ⟨parameter, later, rfl⟩ := List.exists_cons_of_ne_nil nonempty
      apply capturesNothing_redex.mpr
      intro passed occurs _ binder member
      exact independent.not_free_operand binder
        (mem_binders_of_occursUnder occurs member)
  | case4 operator operand noRedex operatorHypothesis operandHypothesis =>
      apply (capturesNothing_app (isLam_eq_false noRedex)).mpr
      exact ⟨operatorHypothesis independent.operator,
        operandHypothesis independent.operand⟩

/-! ## What a pass over an affine term leaves -/

/-- A first parameter is used at most once. -/
theorem Affine.once {parameter : Identifier} {later : List Identifier}
    {body operand : Term}
    (affine : (app (lam (parameter :: later) body) operand).Affine) :
    body.free.count parameter ≤ 1 :=
  affine.1.1 parameter (List.mem_cons_self ..)

theorem count_binders_pass_le {term : Term} (affine : term.Affine)
    (binder : Identifier) :
    term.pass.binders.count binder ≤ term.binders.count binder := by
  fun_induction pass term with
  | case1 identifier =>
      exact Nat.le_refl _
  | case2 parameters body inductionHypothesis =>
      rw [binders_lam, binders_lam, List.count_append, List.count_append]
      exact Nat.add_le_add_left (inductionHypothesis affine.2) _
  | case3 parameters body operand =>
      cases parameters with
      | nil =>
          simp [contract]
      | cons parameter later =>
          exact count_binders_contract_le affine.once binder
  | case4 operator operand noRedex operatorHypothesis operandHypothesis =>
      rw [binders_app, binders_app, List.count_append, List.count_append]
      exact Nat.add_le_add (operatorHypothesis affine.1)
        (operandHypothesis affine.2)

theorem count_free_pass_le {term : Term} (affine : term.Affine)
    (identifier : Identifier) :
    term.pass.free.count identifier ≤ term.free.count identifier := by
  fun_induction pass term with
  | case1 occurring =>
      exact Nat.le_refl _
  | case2 parameters body inductionHypothesis =>
      rw [count_free_lam, count_free_lam]
      split
      · exact Nat.le_refl _
      · exact inductionHypothesis affine.2
  | case3 parameters body operand =>
      cases parameters with
      | nil =>
          simp [contract, free]
      | cons parameter later =>
          exact count_free_contract_le affine.once identifier
  | case4 operator operand noRedex operatorHypothesis operandHypothesis =>
      rw [free, free, List.count_append, List.count_append]
      exact Nat.add_le_add (operatorHypothesis affine.1)
        (operandHypothesis affine.2)

/-- A pass over an affine term makes it smaller or leaves it as it is. -/
theorem pass_eq_or_size_pass_lt {term : Term} (affine : term.Affine) :
    term.pass = term ∨ term.pass.size < term.size := by
  fun_induction pass term with
  | case1 identifier =>
      exact Or.inl rfl
  | case2 parameters body inductionHypothesis =>
      rcases inductionHypothesis affine.2 with same | smaller
      · exact Or.inl (by rw [same])
      · exact Or.inr (Nat.succ_lt_succ smaller)
  | case3 parameters body operand =>
      apply Or.inr
      cases parameters with
      | nil =>
          simp only [contract, size]
          omega
      | cons parameter later =>
          exact size_contract_lt affine.once
  | case4 operator operand noRedex operatorHypothesis operandHypothesis =>
      rcases operatorHypothesis affine.1 with sameOperator | smallerOperator <;>
        rcases operandHypothesis affine.2 with sameOperand | smallerOperand
      · exact Or.inl (by rw [sameOperator, sameOperand])
      · apply Or.inr
        rw [sameOperator, size, size]
        omega
      · apply Or.inr
        rw [sameOperand, size, size]
        omega
      · apply Or.inr
        rw [size, size]
        omega

/-! ## Independence is kept -/

/-- A replacement leaves every binder with the uses it has, if none of them is
free in the value. -/
theorem Affine.replace {term value : Term} (target : Identifier)
    (affine : term.Affine) (valueAffine : value.Affine)
    (apart : ∀ binder ∈ term.binders, binder ∉ value.free) :
    (term.replace target value).Affine := by
  induction term with
  | var identifier =>
      unfold Term.replace
      split
      · exact valueAffine
      · exact affine
  | app operator operand operatorHypothesis operandHypothesis =>
      rw [binders_app] at apart
      constructor
      · apply operatorHypothesis affine.1
        intro binder inOperator
        exact apart binder (List.mem_append_left _ inOperator)
      · apply operandHypothesis affine.2
        intro binder inOperand
        exact apart binder (List.mem_append_right _ inOperand)
  | lam parameters body inductionHypothesis =>
      rw [binders_lam] at apart
      unfold Term.replace
      split
      · exact affine
      · constructor
        -- The copies of the value hold none of the parameters, so what they
        -- are used for is what they were used for before.
        · intro parameter isParameter
          have replaced := count_free_replace_le body target value parameter
          have unused : value.free.count parameter = 0 :=
            List.count_eq_zero.mpr
              (apart parameter (List.mem_append_left _ isParameter))
          have once := affine.1 parameter isParameter
          rw [unused, Nat.mul_zero, Nat.add_zero] at replaced
          split at replaced <;> omega
        · apply inductionHypothesis affine.2
          intro binder inBody
          exact apart binder (List.mem_append_right _ inBody)

theorem Independent.affine_contract {parameter : Identifier}
    {later : List Identifier} {body operand : Term}
    (independent :
      (app (lam (parameter :: later) body) operand).Independent) :
    (contract (parameter :: later) body operand).Affine := by
  have nodup : (parameter :: later).Nodup :=
    (independent.operator.proper _ (List.mem_cons_self ..)).2
  have notRepeated : parameter ∉ later := (List.nodup_cons.mp nodup).1
  obtain ⟨⟨parametersOnce, bodyAffine⟩, operandAffine⟩ := independent.affine
  -- The first parameter is no later one, so replacing it in the body is
  -- replacing it in the abstraction of the later parameters.
  have behindAffine : (lam later body).Affine :=
    ⟨fun other isLater =>
      parametersOnce other (List.mem_cons_of_mem _ isLater), bodyAffine⟩
  have replaced :=
    behindAffine.replace parameter operandAffine independent.not_free_operand
  rw [Term.replace, if_neg notRepeated] at replaced
  exact affine_contract_iff.mpr replaced

theorem Independent.affine_pass {term : Term}
    (independent : term.Independent) : term.pass.Affine := by
  fun_induction Term.pass term with
  | case1 identifier =>
      exact independent.affine
  | case2 parameters body inductionHypothesis =>
      refine ⟨?_, inductionHypothesis independent.body⟩
      intro parameter isParameter
      have once := independent.affine.1 parameter isParameter
      exact Nat.le_trans (count_free_pass_le independent.affine.2 parameter)
        once
  | case3 parameters body operand =>
      cases parameters with
      | nil =>
          exact ⟨independent.affine.1.2, independent.affine.2⟩
      | cons parameter later =>
          exact independent.affine_contract
  | case4 operator operand noRedex operatorHypothesis operandHypothesis =>
      exact ⟨operatorHypothesis independent.operator,
        operandHypothesis independent.operand⟩

/-- A pass keeps the binders independent. -/
theorem Independent.pass {term : Term} (independent : term.Independent) :
    term.pass.Independent where
  proper := independent.proper.pass
  binders_nodup := by
    rw [List.nodup_iff_count]
    intro binder
    have before := List.nodup_iff_count.mp independent.binders_nodup binder
    exact Nat.le_trans (count_binders_pass_le independent.affine binder) before
  not_free := by
    intro binder bound unbound
    exact independent.not_free binder (term.binders_pass_subset bound)
      (term.free_pass_subset unbound)
  affine := independent.affine_pass

theorem Independent.passes {term : Term} (independent : term.Independent)
    (count : Nat) : (Term.passes count term).Independent :=
  passes_induction (motive := Independent) (fun _ => Independent.pass)
    independent count

/-! ## Runs end -/

/-- Every pass of a run that changes the term takes a node away. -/
theorem Independent.size_passes_add_le {term : Term}
    (independent : term.Independent) {count : Nat}
    (changes : ∀ earlier < count,
      (Term.passes earlier term).pass ≠ Term.passes earlier term) :
    (Term.passes count term).size + count ≤ term.size := by
  induction count with
  | zero =>
      exact Nat.le_refl _
  | succ count inductionHypothesis =>
      have earlierPasses := inductionHypothesis fun earlier before =>
        changes earlier (Nat.lt_succ_of_lt before)
      have changed := changes count (Nat.lt_succ_self count)
      rcases pass_eq_or_size_pass_lt (independent.passes count).affine with
        same | smaller
      · exact absurd same changed
      · rw [passes_succ]
        omega

theorem Affine.of_contains {term part : Term} (affine : term.Affine)
    (contained : term.Contains part) : part.Affine := by
  obtain ⟨binders, occurs⟩ := contained
  induction occurs with
  | here =>
      exact affine
  | operator operand occurs inductionHypothesis =>
      exact inductionHypothesis affine.1
  | operand operator occurs inductionHypothesis =>
      exact inductionHypothesis affine.2
  | body parameters occurs inductionHypothesis =>
      exact inductionHypothesis affine.2

/-- Self-application uses its parameter twice, so an affine term that passes
leave as it is has no redex at all. -/
theorem Affine.normal {term : Term} (affine : term.Affine)
    (normal : term.NormalUpToOmega) : term.Normal := by
  intro part contained
  by_contra redex
  rw [Bool.not_eq_false] at redex
  obtain ⟨parameter, rfl⟩ := normal part contained redex
  have once := (affine.of_contains contained).once
  simp [free] at once

/-- Normalization ends with a normal term when it may make as many passes as
the term has nodes. -/
theorem Independent.normalize {term : Term} (independent : term.Independent)
    {maxSteps : Nat} (enough : term.size ≤ maxSteps) :
    (term.normalize maxSteps).converged = true ∧
      (term.normalize maxSteps).term.Normal := by
  obtain ⟨stops, reached⟩ := term.normalize_stopsAfter maxSteps
  have smaller := independent.size_passes_add_le stops.changes
  have positive := size_pos
    (Term.passes (term.normalize maxSteps).steps term)
  have arrived := stops.arrived (by omega)
  rw [converged_normalize, reached]
  refine ⟨decide_eq_true arrived, ?_⟩
  apply (independent.passes _).affine.normal
  exact pass_eq_self_iff.mp arrived

/-- In a program whose binders all have different names and are used at most
once each, every pass contracts the outermost redexes of the nameless reading.
The binders stay different and used at most once, and a pass that changes the
term makes it smaller. So normalization only makes beta steps, and with as many
passes as the term has nodes it ends with a term that has no redex. -/
theorem affine_program_reaches_normal_form
    {parser after : Parser} {term : Term}
    (parsed : parser.parse = .ok term after)
    (distinct : term.DistinctNames) (affine : term.Affine) :
    (∀ count,
      (passes (count + 1) term).nameless =
        (passes count term).nameless.contractOutermost ∧
      (passes count term).binders.Nodup ∧
      (passes count term).Affine ∧
      (passes (count + 1) term ≠ passes count term →
        (passes (count + 1) term).size < (passes count term).size)) ∧
    ∀ maxSteps,
      Nameless.Steps term.nameless
        (term.normalize maxSteps).term.nameless ∧
      (term.size ≤ maxSteps →
        (term.normalize maxSteps).converged = true ∧
          (term.normalize maxSteps).term.Normal) := by
  have independent : term.Independent :=
    .of_wellFormed (Parser.wellFormed_of_parse parsed) distinct affine
  constructor
  · intro count
    have reached := independent.passes count
    rw [passes_succ]
    refine ⟨?_, reached.binders_nodup, reached.affine, ?_⟩
    · exact (namelessUnder_pass_iff reached.proper []).mpr
        reached.capturesNothing
    · intro changes
      exact (pass_eq_or_size_pass_lt reached.affine).resolve_left changes
  · intro maxSteps
    refine ⟨?_, independent.normalize⟩
    rw [(term.normalize_stopsAfter maxSteps).2]
    apply steps_passes independent.proper
    intro earlier _
    exact (independent.passes earlier).capturesNothing

/-- In `(\f x. f x) (\y z. y) a b` the parameter `x` is moved below another
binder before it is replaced itself, and `z` is not used. -/
theorem affine_application_reaches_normal_form :
    ∃ parser term after, Parser.parse parser = .ok term after ∧
      Term.parse "(\\f x. f x) (\\y z. y) a b" = .ok term ∧
      term.DistinctNames ∧ term.Affine ∧
      (term.normalize term.size).converged = true ∧
        (term.normalize term.size).term.Normal := by
  have read : Term.parse "(\\f x. f x) (\\y z. y) a b" =
      .ok (.app
        (.app
          (.app
            (.lam [⟨"f", 1⟩, ⟨"x", 1⟩]
              (.app (.var ⟨"f", 1⟩) (.var ⟨"x", 1⟩)))
            (.lam [⟨"y", 1⟩, ⟨"z", 1⟩] (.var ⟨"y", 1⟩)))
          (.var ⟨"a", 0⟩))
        (.var ⟨"b", 0⟩)) := by
    cbv
  obtain ⟨parser, after, parsed⟩ := exists_parser_of_parse read
  refine ⟨parser, _, after, parsed, read, by decide, by decide, ?_⟩
  have reaches :=
    affine_program_reaches_normal_form parsed (by decide) (by decide)
  exact (reaches.2 _).2 (Nat.le_refl _)

end Term

end NumberedLambda
