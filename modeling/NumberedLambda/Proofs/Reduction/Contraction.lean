import NumberedLambda.Proofs.Nameless.Reading
import NumberedLambda.Term.Occurrence
import NumberedLambda.Term.Reduction

/-!
# Contraction and capture

Substitution without renaming is measured by substitution on nameless terms.
The two agree if and only if nothing is captured: a free identifier of the
value that comes below a binder of the same identifier is read as bound there,
and nowhere else do the two differ. The contraction of a redex substitutes
below the parameters that stay, so these can capture as well.
-/

namespace NumberedLambda

namespace Term

/-! ## Capture below binders -/

/-- Replacing `target` by `value` in a term that stands below `inner`
captures nothing, neither in the term nor by the binders around it. -/
def CaptureFreeBelow (inner : List Identifier) (term : Term)
    (target : Identifier) (value : Term) : Prop :=
  ∀ passed, OccursUnder (.var target) passed term → target ∉ passed →
    ∀ binder ∈ passed ++ inner, binder ∉ value.free

theorem captureFreeBelow_var_self
    {inner : List Identifier} {target : Identifier} {value : Term} :
    CaptureFreeBelow inner (.var target) target value ↔
      ∀ identifier ∈ value.free, identifier ∉ inner := by
  constructor
  · intro captureFree identifier inValue inInner
    exact captureFree [] .here List.not_mem_nil identifier inInner inValue
  · intro notInner passed occurs unbound binder member inValue
    cases occurs with
    | here =>
        exact notInner binder inValue member

theorem captureFreeBelow_var_of_ne
    {inner : List Identifier} {identifier target : Identifier}
    {value : Term} (different : identifier ≠ target) :
    CaptureFreeBelow inner (.var identifier) target value := by
  intro passed occurs
  cases occurs with
  | here =>
      exact absurd rfl different

theorem captureFreeBelow_app
    {inner : List Identifier} {operator operand : Term}
    {target : Identifier} {value : Term} :
    CaptureFreeBelow inner (.app operator operand) target value ↔
      CaptureFreeBelow inner operator target value ∧
        CaptureFreeBelow inner operand target value := by
  constructor
  · intro captureFree
    exact
      ⟨fun passed occurs => captureFree passed (.operator operand occurs),
        fun passed occurs => captureFree passed (.operand operator occurs)⟩
  · rintro ⟨operatorFree, operandFree⟩ passed occurs
    cases occurs with
    | operator _ inOperator =>
        exact operatorFree passed inOperator
    | operand _ inOperand =>
        exact operandFree passed inOperand

theorem captureFreeBelow_lam_of_mem
    {inner parameters : List Identifier} {body : Term}
    {target : Identifier} {value : Term} (shadowed : target ∈ parameters) :
    CaptureFreeBelow inner (.lam parameters body) target value := by
  intro passed occurs unbound
  cases occurs with
  | body _ inBody =>
      refine absurd (List.mem_append_right _ ?_) unbound
      exact List.mem_reverse.mpr shadowed

theorem captureFreeBelow_lam
    {inner parameters : List Identifier} {body : Term}
    {target : Identifier} {value : Term} (visible : target ∉ parameters) :
    CaptureFreeBelow inner (.lam parameters body) target value ↔
      CaptureFreeBelow (parameters.reverse ++ inner) body target value := by
  constructor
  · intro captureFree passed occurs unbound
    rw [← List.append_assoc]
    refine captureFree _ (.body parameters occurs) ?_
    simp [unbound, visible]
  · intro captureFree passed occurs unbound
    cases occurs with
    | @body inBodyBinders _ _ inBody =>
        rw [List.mem_append, not_or] at unbound
        rw [List.append_assoc]
        exact captureFree inBodyBinders inBody unbound.1

theorem captureFreeBelow_nil {term : Term} {target : Identifier}
    {value : Term} :
    CaptureFreeBelow [] term target value ↔
      term.CaptureFree target value := by
  simp only [CaptureFreeBelow, CaptureFree, List.append_nil]

/-! ## Substitution of nameless terms -/

/-- Where the binder that is taken away has another identifier, or is
shadowed, a variable keeps what it stands for. -/
theorem substitute_namelessVariable
    {inner : List Identifier} {target identifier : Identifier}
    (elsewhere : identifier = target → target ∈ inner)
    (outer : List Identifier) (value : Nameless) :
    (namelessVariable (inner ++ target :: outer) identifier).substitute
        inner.length value =
      namelessVariable (inner ++ outer) identifier := by
  by_cases inInner : identifier ∈ inner
  · obtain ⟨index, inside, reads⟩ := exists_bound_of_mem inInner
    rw [reads, reads, Nameless.substitute, if_pos inside]
  · have different : identifier ≠ target := by
      intro same
      exact inInner (same ▸ elsewhere same)
    rw [namelessVariable_append_of_not_mem inInner,
      namelessVariable_append_of_not_mem inInner,
      namelessVariable_cons_of_ne _ different, namelessVariable]
    cases outer.idxOf? identifier with
    | none =>
        rfl
    | some index =>
        have beyond : ¬ index + 1 + inner.length < inner.length := by omega
        have further : index + 1 + inner.length ≠ inner.length := by omega
        have nearer : index + 1 + inner.length - 1 = index + inner.length := by
          omega
        simp only [Nameless.raise, Nat.not_lt_zero, if_false,
          Nameless.substitute, if_neg beyond, if_neg further, nearer]

theorem substitute_namelessVariable_self
    {inner : List Identifier} {target : Identifier}
    (visible : target ∉ inner) (outer : List Identifier)
    (value : Nameless) :
    (namelessVariable (inner ++ target :: outer) target).substitute
        inner.length value =
      value.raise inner.length 0 := by
  rw [namelessVariable_append_of_not_mem visible, namelessVariable_cons_self,
    Nameless.raise, if_neg (Nat.not_lt_zero 0), Nat.zero_add,
    Nameless.substitute, if_neg (Nat.lt_irrefl _), if_pos rfl]

/-- A binder that binds nothing in a term can be taken away. -/
theorem substitute_namelessUnder
    {inner : List Identifier} {target : Identifier} {term : Term}
    (unused : target ∈ term.free → target ∈ inner)
    (outer : List Identifier) (value : Nameless) :
    (term.namelessUnder (inner ++ target :: outer)).substitute
        inner.length value =
      term.namelessUnder (inner ++ outer) := by
  induction term generalizing inner with
  | var identifier =>
      refine substitute_namelessVariable ?_ outer value
      intro same
      exact unused (mem_free_var.mpr same.symm)
  | app operator operand operatorHypothesis operandHypothesis =>
      rw [namelessUnder, namelessUnder, Nameless.substitute,
        operatorHypothesis fun member =>
          unused (mem_free_app.mpr (Or.inl member)),
        operandHypothesis fun member =>
          unused (mem_free_app.mpr (Or.inr member))]
  | lam parameters body inductionHypothesis =>
      have unusedInBody : target ∈ body.free →
          target ∈ parameters.reverse ++ inner := by
        intro member
        by_cases shadowed : target ∈ parameters
        · exact List.mem_append_left _ (List.mem_reverse.mpr shadowed)
        · exact List.mem_append_right _
            (unused (mem_free_lam.mpr ⟨member, shadowed⟩))
      have bodyEquality := inductionHypothesis unusedInBody
      rw [List.append_assoc, List.append_assoc, List.length_append,
        List.length_reverse] at bodyEquality
      rw [namelessUnder, namelessUnder, Nameless.substitute_abstractions,
        bodyEquality]

/-- Substitution without renaming is substitution on the nameless readings if
and only if nothing is captured. -/
theorem namelessUnder_replace_iff
    {inner : List Identifier} {target : Identifier}
    (visible : target ∉ inner) (outer : List Identifier)
    (term value : Term) :
    (term.replace target value).namelessUnder (inner ++ outer) =
        (term.namelessUnder (inner ++ target :: outer)).substitute
          inner.length (value.namelessUnder outer) ↔
      CaptureFreeBelow inner term target value := by
  induction term generalizing inner with
  | var identifier =>
      by_cases same : identifier = target
      · subst same
        rw [replace, if_pos rfl, namelessUnder,
          substitute_namelessVariable_self visible,
          namelessUnder_append_iff, captureFreeBelow_var_self]
      · have elsewhere : identifier = target → target ∈ inner :=
          fun equality => absurd equality same
        have kept := substitute_namelessVariable elsewhere outer
          (value.namelessUnder outer)
        rw [replace, if_neg same, namelessUnder, namelessUnder, kept]
        exact ⟨fun _ => captureFreeBelow_var_of_ne same, fun _ => rfl⟩
  | app operator operand operatorHypothesis operandHypothesis =>
      rw [replace, namelessUnder, namelessUnder, Nameless.substitute,
        Nameless.app.injEq, operatorHypothesis visible,
        operandHypothesis visible, captureFreeBelow_app]
  | lam parameters body inductionHypothesis =>
      by_cases shadowed : target ∈ parameters
      · have unused : target ∈ (lam parameters body).free →
            target ∈ inner := by
          intro member
          exact absurd shadowed (mem_free_lam.mp member).2
        rw [replace, if_pos shadowed, substitute_namelessUnder unused]
        exact ⟨fun _ => captureFreeBelow_lam_of_mem shadowed, fun _ => rfl⟩
      · have visibleInBody : target ∉ parameters.reverse ++ inner := by
          simp [shadowed, visible]
        have inBody := inductionHypothesis visibleInBody
        rw [List.append_assoc, List.append_assoc, List.length_append,
          List.length_reverse] at inBody
        rw [replace, if_neg shadowed, namelessUnder, namelessUnder,
          Nameless.substitute_abstractions, Nameless.abstractions_inj,
          inBody, captureFreeBelow_lam shadowed]

/-! ## Contraction -/

theorem namelessUnder_redex (binders : List Identifier)
    (parameter : Identifier) (later : List Identifier)
    (body operand : Term) :
    (app (lam (parameter :: later) body) operand).namelessUnder binders =
      .app
        (.lam (.abstractions later.length
          (body.namelessUnder (later.reverse ++ parameter :: binders))))
        (operand.namelessUnder binders) := by
  simp only [namelessUnder, List.length_cons, Nameless.abstractions,
    List.reverse_cons, List.append_assoc, List.singleton_append]

theorem namelessUnder_contract (binders : List Identifier)
    (parameter : Identifier) (later : List Identifier)
    (body operand : Term) :
    (contract (parameter :: later) body operand).namelessUnder binders =
      .abstractions later.length
        ((body.replace parameter operand).namelessUnder
          (later.reverse ++ binders)) := by
  cases later with
  | nil =>
      rfl
  | cons next rest =>
      rfl

/-- Contracting a redex contracts its nameless reading if and only if neither
the body nor the parameters that stay capture anything. -/
theorem namelessUnder_contract_iff
    (binders : List Identifier) {parameter : Identifier}
    {later : List Identifier} (notRepeated : parameter ∉ later)
    (body operand : Term) :
    (contract (parameter :: later) body operand).namelessUnder binders =
        ((app (lam (parameter :: later) body) operand).namelessUnder
          binders).contractOutermost ↔
      (lam later body).CaptureFree parameter operand := by
  have visible : parameter ∉ later.reverse := by
    simpa using notRepeated
  have replaced := namelessUnder_replace_iff visible binders body operand
  rw [List.length_reverse] at replaced
  rw [namelessUnder_contract, namelessUnder_redex,
    Nameless.contractOutermost, Nameless.instantiate,
    Nameless.substitute_abstractions, Nameless.abstractions_inj,
    Nat.add_zero, replaced, ← captureFreeBelow_nil,
    captureFreeBelow_lam notRepeated, List.append_nil]

end Term

end NumberedLambda
