import NumberedLambda.Proofs.Reduction.Contraction

/-!
# Substitution for a free identifier

Substitution without renaming, measured by capture-avoiding substitution for a
free variable of the nameless reading. Substituting for a free variable is
substituting for the variable of an abstraction around the whole term, so the
comparison made for the contraction of redexes settles this one as well: the
two agree exactly where nothing is captured, and every capture changes what the
result means.

Two substitutions can be exchanged even where they capture, because both orders
put the same values below the same binders. The exception is a value for the
first identifier that mentions the second one and comes to stand below a binder
of it: there the second substitution stops if it comes last.
-/

namespace NumberedLambda

namespace Term

private theorem substitute_namelessVariable_outermost
    (inner : List Identifier) (target identifier : Identifier)
    (value : Nameless) :
    (namelessVariable (inner ++ [target]) identifier).substitute
        inner.length value =
      (namelessVariable inner identifier).substituteFree
        inner.length target value := by
  by_cases inInner : identifier ∈ inner
  · obtain ⟨index, inside, reads⟩ := exists_bound_of_mem inInner
    have alone : namelessVariable inner identifier = .bound index := by
      simpa using reads []
    rw [reads, alone, Nameless.substitute, if_pos inside,
      Nameless.substituteFree]
  · have free := namelessVariable_of_not_mem inInner
    by_cases same : identifier = target
    · subst same
      rw [substitute_namelessVariable_self inInner, free,
        Nameless.substituteFree, if_pos rfl]
    · have elsewhere : identifier = target → target ∈ inner :=
        fun equality => absurd equality same
      rw [substitute_namelessVariable elsewhere, List.append_nil, free,
        Nameless.substituteFree, if_neg same]

/-- Substituting for a free identifier is substituting for the variable of an
outermost abstraction that binds it. -/
theorem substitute_namelessUnder_outermost
    (inner : List Identifier) (target : Identifier) (term : Term)
    (value : Nameless) :
    (term.namelessUnder (inner ++ [target])).substitute
        inner.length value =
      (term.namelessUnder inner).substituteFree
        inner.length target value := by
  induction term generalizing inner with
  | var identifier =>
      exact substitute_namelessVariable_outermost inner target identifier
        value
  | app operator operand operatorHypothesis operandHypothesis =>
      rw [namelessUnder, namelessUnder, Nameless.substitute,
        Nameless.substituteFree, operatorHypothesis, operandHypothesis]
  | lam parameters body inductionHypothesis =>
      have inBody := inductionHypothesis (parameters.reverse ++ inner)
      rw [List.append_assoc, List.length_append,
        List.length_reverse] at inBody
      rw [namelessUnder, namelessUnder, Nameless.substitute_abstractions,
        Nameless.substituteFree_abstractions, inBody]

/-- Replacing an identifier without renaming is capture-avoiding substitution
for it if and only if none of its free occurrences stands below a binder of an
identifier that is free in the value. -/
theorem nameless_replace_iff_captureFree
    (term value : Term) (target : Identifier) :
    (term.replace target value).nameless =
        term.nameless.substituteFree 0 target value.nameless ↔
      term.CaptureFree target value := by
  have outermost :
      (term.namelessUnder [target]).substitute 0 value.nameless =
        term.nameless.substituteFree 0 target value.nameless :=
    substitute_namelessUnder_outermost [] target term value.nameless
  have replaced :=
    namelessUnder_replace_iff (List.not_mem_nil (a := target)) [] term value
  rw [captureFreeBelow_nil] at replaced
  rw [← outermost]
  exact replaced

/-! ## Exchange of substitutions -/

private theorem replace_var_exchange {first second : Identifier}
    {value other : Term} (different : first ≠ second)
    (notInOther : first ∉ other.free) (identifier : Identifier) :
    ((var identifier).replace first value).replace second other =
      ((var identifier).replace second other).replace first
        (value.replace second other) := by
  by_cases isFirst : identifier = first
  · subst isFirst
    simp only [replace, if_true, different, if_false]
  · by_cases isSecond : identifier = second
    · subst isSecond
      simp only [replace, isFirst, if_true, if_false,
        replace_eq_self_of_not_mem_free notInOther]
    · simp only [replace, isFirst, isSecond, if_false]

/-- Two substitutions for different identifiers can be exchanged if the value
that is put in last does not mention the first identifier, and the other value
does not mention the second identifier or no abstraction binds it. Then the
other value has to be substituted in as well. -/
theorem replace_replace_exchange {term value other : Term}
    {first second : Identifier} (different : first ≠ second)
    (notInOther : first ∉ other.free)
    (unaffected : second ∉ value.free ∨ second ∉ term.binders) :
    (term.replace first value).replace second other =
      (term.replace second other).replace first
        (value.replace second other) := by
  induction term with
  | var identifier =>
      exact replace_var_exchange different notInOther identifier
  | app operator operand operatorHypothesis operandHypothesis =>
      rw [binders_app, List.mem_append, not_or] at unaffected
      simp only [replace,
        operatorHypothesis (unaffected.imp_right And.left),
        operandHypothesis (unaffected.imp_right And.right)]
  | lam parameters body inductionHypothesis =>
      rw [binders_lam, List.mem_append, not_or] at unaffected
      have inBody := inductionHypothesis (unaffected.imp_right And.right)
      by_cases bindsFirst : first ∈ parameters
      · by_cases bindsSecond : second ∈ parameters
        · simp only [replace, bindsFirst, bindsSecond, if_true]
        · simp only [replace, bindsFirst, bindsSecond, if_true, if_false]
      · by_cases bindsSecond : second ∈ parameters
        · -- Only the first substitution goes on, with its value as it is.
          have absent : second ∉ value.free :=
            unaffected.resolve_right fun unbound => unbound.1 bindsSecond
          simp only [replace, bindsFirst, bindsSecond, if_true, if_false,
            replace_eq_self_of_not_mem_free absent]
        · simp only [replace, bindsFirst, bindsSecond, if_false, inBody]

/-- Both values are captured by the same binder, whichever is put in
first. -/
theorem captured_values_are_exchanged :
    ∃ (term value other : Term) (first second : Identifier),
      term = .lam [⟨"z", 1⟩] (.app (.var ⟨"x", 0⟩) (.var ⟨"y", 0⟩)) ∧
      value = .app (.var ⟨"y", 0⟩) (.var ⟨"z", 1⟩) ∧
      other = .var ⟨"z", 1⟩ ∧
      first = ⟨"x", 0⟩ ∧ second = ⟨"y", 0⟩ ∧
      first ≠ second ∧ first ∉ other.free ∧
      (second ∉ value.free ∨ second ∉ term.binders) ∧
      (term.replace first value).replace second other =
        (term.replace second other).replace first
          (value.replace second other) := by
  refine ⟨_, _, _, _, _, rfl, rfl, rfl, rfl, rfl, ?_⟩
  refine ⟨by decide, by decide, by decide, ?_⟩
  exact replace_replace_exchange (by decide) (by decide) (by decide)

end Term

end NumberedLambda
