import NumberedLambda.Term.Numbering

/-!
# Stacks of numbered binders

The binders on the way from a term to one of its parts form a stack. In a
numbered term each of them counts the binders of its name further out, so the
highest number of a name is that of the innermost binder, no binder occurs
twice, and a name together with the number of its binders is the innermost
binder of that name.
-/

namespace NumberedLambda

/-- Binders, innermost first, each of which has one more than the number of
binders of its name further out. Around all of them are binders of the given
names. -/
def StackedOn (names : List String) : List Identifier → Prop
  | [] => True
  | binder :: outer =>
      binder.number =
        (outer.map Identifier.name ++ names).count binder.name + 1 ∧
      StackedOn names outer

namespace StackedOn

theorem append {names : List String} {inner outer : List Identifier}
    (stackedInner : StackedOn (outer.map Identifier.name ++ names) inner)
    (stackedOuter : StackedOn names outer) :
    StackedOn names (inner ++ outer) := by
  induction inner with
  | nil =>
      exact stackedOuter
  | cons binder others inductionHypothesis =>
      rw [List.cons_append]
      refine ⟨?_, inductionHypothesis stackedInner.2⟩
      rw [List.map_append, List.append_assoc]
      exact stackedInner.1

/-- Binders of different names that count the same binders outside are stacked
in any order. -/
theorem of_distinct {names : List String} {binders : List Identifier}
    (number_eq : ∀ binder ∈ binders,
      binder.number = names.count binder.name + 1)
    (distinct : (binders.map Identifier.name).Nodup) :
    StackedOn names binders := by
  induction binders with
  | nil =>
      trivial
  | cons binder outer inductionHypothesis =>
      obtain ⟨notOutside, outerDistinct⟩ := List.nodup_cons.mp distinct
      refine ⟨?_, inductionHypothesis
        (fun other member => number_eq other (List.mem_cons_of_mem _ member))
        outerDistinct⟩
      rw [List.count_append, List.count_eq_zero.mpr notOutside, Nat.zero_add]
      exact number_eq binder (List.mem_cons_self ..)

/-- No number of a name is larger than the number of its binders. -/
theorem number_le {names : List String} {binders : List Identifier}
    (stacked : StackedOn names binders) {binder : Identifier}
    (member : binder ∈ binders) :
    binder.number ≤
      (binders.map Identifier.name ++ names).count binder.name := by
  induction binders with
  | nil =>
      cases member
  | cons innermost outer inductionHypothesis =>
      rw [List.map_cons, List.cons_append]
      rcases List.mem_cons.mp member with rfl | further
      · rw [List.count_cons_self]
        exact Nat.le_of_eq stacked.1
      · have bound := inductionHypothesis stacked.2 further
        exact Nat.le_trans bound List.count_le_count_cons

theorem nodup {names : List String} {binders : List Identifier}
    (stacked : StackedOn names binders) : binders.Nodup := by
  induction binders with
  | nil =>
      exact List.nodup_nil
  | cons innermost outer inductionHypothesis =>
      refine List.nodup_cons.mpr ⟨?_, inductionHypothesis stacked.2⟩
      intro member
      have bound := stacked.2.number_le member
      have number := stacked.1
      omega

/-- The innermost binder of a name has the number of all its binders. -/
theorem find?_eq {names : List String} {binders : List Identifier}
    (stacked : StackedOn names binders) {name : String}
    (bound : name ∈ binders.map Identifier.name) :
    binders.find? (fun binder => binder.name = name) =
      some ⟨name, (binders.map Identifier.name ++ names).count name⟩ := by
  induction binders with
  | nil =>
      cases bound
  | cons innermost outer inductionHypothesis =>
      by_cases same : innermost.name = name
      · subst same
        have number := stacked.1
        rw [List.find?_cons_of_pos (by simp), List.map_cons,
          List.cons_append, List.count_cons_self, ← number]
      · have further : name ∈ outer.map Identifier.name := by
          rcases List.mem_cons.mp bound with equality | member
          · exact absurd equality.symm same
          · exact member
        rw [List.find?_cons_of_neg (by simp [same]),
          inductionHypothesis stacked.2 further, List.map_cons,
          List.cons_append, List.count_cons_of_ne same]

end StackedOn

namespace Term

theorem numberedUnder_of_occursUnder
    {part term : Term} {binders : List Identifier} {names : List String}
    (occurs : OccursUnder part binders term)
    (numbered : term.NumberedUnder names) :
    part.NumberedUnder (binders.map Identifier.name ++ names) := by
  induction occurs generalizing names with
  | here =>
      exact numbered
  | operator operand occurs inductionHypothesis =>
      exact inductionHypothesis numbered.1
  | operand operator occurs inductionHypothesis =>
      exact inductionHypothesis numbered.2
  | body parameters occurs inductionHypothesis =>
      rw [List.map_append, List.append_assoc]
      exact inductionHypothesis numbered.2

theorem stackedOn_of_occursUnder
    {part term : Term} {binders : List Identifier} {names : List String}
    (occurs : OccursUnder part binders term)
    (numbered : term.NumberedUnder names)
    (distinct : ∀ parameters ∈ term.parameterLists,
      (parameters.map Identifier.name).Nodup) :
    StackedOn names binders := by
  induction occurs generalizing names with
  | here =>
      trivial
  | operator operand occurs inductionHypothesis =>
      exact inductionHypothesis numbered.1 fun parameters member =>
        distinct parameters (List.mem_append_left _ member)
  | operand operator occurs inductionHypothesis =>
      exact inductionHypothesis numbered.2 fun parameters member =>
        distinct parameters (List.mem_append_right _ member)
  | body parameters occurs inductionHypothesis =>
      have parametersDistinct :
          (parameters.reverse.map Identifier.name).Nodup := by
        rw [List.map_reverse]
        exact (List.reverse_perm _).nodup_iff.mpr <|
          distinct parameters (List.mem_cons_self ..)
      have stackedInner := inductionHypothesis numbered.2
        fun other member => distinct other (List.mem_cons_of_mem _ member)
      refine stackedInner.append (.of_distinct ?_ parametersDistinct)
      intro parameter member
      exact numbered.1 parameter (List.mem_reverse.mp member)

/-- A free identifier of a numbered term counts the binders of its name around
the term. -/
theorem number_of_mem_free_of_numberedUnder
    {term : Term} {identifier : Identifier} {names : List String}
    (numbered : term.NumberedUnder names)
    (distinct : ∀ parameters ∈ term.parameterLists,
      (parameters.map Identifier.name).Nodup)
    (member : identifier ∈ term.free) :
    identifier.number = names.count identifier.name := by
  obtain ⟨binders, occurs, unbound⟩ := mem_free_iff_occursUnder.mp member
  have number : identifier.number =
      (binders.map Identifier.name ++ names).count identifier.name :=
    numberedUnder_of_occursUnder occurs numbered
  by_cases bound : identifier.name ∈ binders.map Identifier.name
  · -- The innermost binder of the name would be the identifier itself.
    have stacked := stackedOn_of_occursUnder occurs numbered distinct
    have found := stacked.find?_eq bound
    rw [← number] at found
    exact absurd (List.mem_of_find?_eq_some found) unbound
  · rw [number, List.count_append, List.count_eq_zero.mpr bound,
      Nat.zero_add]

end Term

end NumberedLambda
