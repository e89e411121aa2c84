import NumberedLambda.Proofs.Nameless.Abstractions
import NumberedLambda.Term.NamelessReading

/-!
# Reading terms below more binders

Binders that are put between a term and the binders around it raise the
indices that refer beyond them. This holds exactly as long as the new binders
carry none of the identifiers that are free in the term; otherwise one of them
takes a variable away from what it stood for.
-/

namespace NumberedLambda

namespace Term

/-- Which of the inner binders a variable belongs to does not depend on the
outer ones. -/
theorem exists_bound_of_mem {inner : List Identifier}
    {identifier : Identifier} (member : identifier ∈ inner) :
    ∃ index, index < inner.length ∧ ∀ outer,
      namelessVariable (inner ++ outer) identifier = .bound index := by
  induction inner with
  | nil =>
      cases member
  | cons binder later inductionHypothesis =>
      by_cases same : identifier = binder
      · subst same
        refine ⟨0, Nat.zero_lt_succ _, ?_⟩
        intro outer
        exact namelessVariable_cons_self (later ++ outer) identifier
      · have further : identifier ∈ later :=
          (List.mem_cons.mp member).resolve_left same
        obtain ⟨index, inside, reads⟩ := inductionHypothesis further
        refine ⟨index + 1, Nat.succ_lt_succ inside, ?_⟩
        intro outer
        rw [List.cons_append, namelessVariable_cons_of_ne _ same, reads outer]
        rfl

theorem namelessVariable_append_of_not_mem
    {inner : List Identifier} {identifier : Identifier}
    (unbound : identifier ∉ inner) (outer : List Identifier) :
    namelessVariable (inner ++ outer) identifier =
      (namelessVariable outer identifier).raise inner.length 0 := by
  induction inner with
  | nil =>
      rw [List.nil_append, namelessVariable]
      cases outer.idxOf? identifier <;> rfl
  | cons binder later inductionHypothesis =>
      rw [List.mem_cons, not_or] at unbound
      rw [List.cons_append, namelessVariable_cons_of_ne _ unbound.1,
        inductionHypothesis unbound.2,
        Nameless.raise_raise (Nat.le_refl 0) (Nat.zero_le _)]
      rfl

private theorem raise_ne_bound {binders : List Identifier}
    {identifier : Identifier} {amount index : Nat} (inside : index < amount) :
    (namelessVariable binders identifier).raise amount 0 ≠ .bound index := by
  rw [namelessVariable]
  cases binders.idxOf? identifier with
  | none =>
      exact Nameless.noConfusion
  | some position =>
      intro equality
      injection equality with sameIndex
      omega

private theorem namelessVariable_append_append_iff
    (passed inserted outer : List Identifier) (identifier : Identifier) :
    namelessVariable (passed ++ (inserted ++ outer)) identifier =
        (namelessVariable (passed ++ outer) identifier).raise
          inserted.length passed.length ↔
      (identifier ∉ passed → identifier ∉ inserted) := by
  by_cases inPassed : identifier ∈ passed
  · obtain ⟨index, inside, reads⟩ := exists_bound_of_mem inPassed
    rw [reads, reads, Nameless.raise, if_pos inside]
    exact ⟨fun _ notPassed => absurd inPassed notPassed, fun _ => rfl⟩
  · have raisedTwice :
        (namelessVariable (passed ++ outer) identifier).raise
            inserted.length passed.length =
          (namelessVariable outer identifier).raise
            (passed.length + inserted.length) 0 := by
      rw [namelessVariable_append_of_not_mem inPassed,
        Nameless.raise_raise (Nat.zero_le _) (by omega)]
    rw [raisedTwice, namelessVariable_append_of_not_mem inPassed]
    by_cases inInserted : identifier ∈ inserted
    · obtain ⟨index, inside, reads⟩ := exists_bound_of_mem inInserted
      rw [reads, Nameless.raise, if_neg (Nat.not_lt_zero index)]
      constructor
      · intro equality
        exact absurd equality.symm (raise_ne_bound (by omega))
      · intro notInserted
        exact absurd inInserted (notInserted inPassed)
    · rw [namelessVariable_append_of_not_mem inInserted,
        Nameless.raise_raise (Nat.le_refl 0) (Nat.zero_le _),
        Nat.add_comm inserted.length]
      exact ⟨fun _ _ => inInserted, fun _ => rfl⟩

/-- Binders that are put between raise the reading of a term if and only if
they capture none of its free identifiers. -/
theorem namelessUnder_append_append_iff
    (passed inserted outer : List Identifier) (term : Term) :
    term.namelessUnder (passed ++ (inserted ++ outer)) =
        (term.namelessUnder (passed ++ outer)).raise
          inserted.length passed.length ↔
      ∀ identifier ∈ term.free, identifier ∉ passed →
        identifier ∉ inserted := by
  induction term generalizing passed with
  | var occurring =>
      have single :=
        namelessVariable_append_append_iff passed inserted outer occurring
      rw [namelessUnder, namelessUnder, single]
      constructor
      · intro notInserted identifier member
        cases mem_free_var.mp member
        exact notInserted
      · intro notInserted
        exact notInserted occurring (mem_free_var.mpr rfl)
  | app operator operand operatorHypothesis operandHypothesis =>
      rw [namelessUnder, namelessUnder, Nameless.raise,
        Nameless.app.injEq, operatorHypothesis, operandHypothesis]
      constructor
      · rintro ⟨inOperator, inOperand⟩ identifier member
        rcases mem_free_app.mp member with operatorMember | operandMember
        · exact inOperator identifier operatorMember
        · exact inOperand identifier operandMember
      · intro anywhere
        exact
          ⟨fun identifier member =>
              anywhere identifier (mem_free_app.mpr (Or.inl member)),
            fun identifier member =>
              anywhere identifier (mem_free_app.mpr (Or.inr member))⟩
  | lam parameters body inductionHypothesis =>
      have inBody := inductionHypothesis (parameters.reverse ++ passed)
      rw [List.append_assoc, List.append_assoc, List.length_append,
        List.length_reverse] at inBody
      rw [namelessUnder, namelessUnder, Nameless.raise_abstractions,
        Nameless.abstractions_inj, inBody]
      constructor
      · intro anywhere identifier member notPassed
        obtain ⟨bodyMember, noParameter⟩ := mem_free_lam.mp member
        refine anywhere identifier bodyMember ?_
        simp [noParameter, notPassed]
      · intro anywhere identifier bodyMember unbound
        rw [List.mem_append, not_or, List.mem_reverse] at unbound
        exact anywhere identifier
          (mem_free_lam.mpr ⟨bodyMember, unbound.1⟩) unbound.2

theorem namelessUnder_append_iff
    (inserted outer : List Identifier) (term : Term) :
    term.namelessUnder (inserted ++ outer) =
        (term.namelessUnder outer).raise inserted.length 0 ↔
      ∀ identifier ∈ term.free, identifier ∉ inserted := by
  have general := namelessUnder_append_append_iff [] inserted outer term
  simpa using general

end Term

end NumberedLambda
