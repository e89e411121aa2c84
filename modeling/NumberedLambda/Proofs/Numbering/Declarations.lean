import NumberedLambda.ScopeTree.Inheritance

/-!
# Histories of declarations

What a declaration changes, in any tree that operations lead to from the root
alone: the name is one number higher in the scope and in the scopes that
inherit it from there, and nothing else changes. So the numbers that names
resolve to only grow, every declaration in a scope gives a higher number than
the ones before it, and no number exceeds the number of declarations of its
name.
-/

namespace NumberedLambda

namespace ScopeTree

/-! ## One declaration -/

/-- A declaration is felt in its scope and wherever the name is inherited from
there. -/
theorem numberOf_declare_of_inherits
    {tree : ScopeTree} {scope other : Nat} {name : String}
    (inside : scope < tree.size) (inherits : tree.Inherits name scope other) :
    (tree.declare scope name).2.numberOf other name =
      tree.numberOf scope name + 1 :=
  numberOf_record_of_inherits _ inside inherits

/-- Nothing else changes by a declaration. -/
theorem numberOf_declare_of_not
    {tree : ScopeTree} {scope other : Nat} {name resolved : String}
    (apart : ¬(resolved = name ∧ tree.Inherits name scope other)) :
    (tree.declare scope name).2.numberOf other resolved =
      tree.numberOf other resolved := by
  by_cases same : resolved = name
  · subst same
    exact numberOf_record_of_not_inherits _ fun inherits =>
      apart ⟨rfl, inherits⟩
  · exact numberOf_record_of_ne scope other _ same

/-! ## One operation -/

/-- No operation makes a name resolve to less than before. -/
theorem numberOf_le_perform
    {tree : ScopeTree} {operation : Operation}
    (admitted : tree.Admits operation) (position : Nat) (name : String) :
    tree.numberOf position name ≤
      (tree.perform operation).numberOf position name := by
  cases operation with
  | openChild parent =>
      by_cases inside : position < tree.size
      · exact Nat.le_of_eq (numberOf_openChild_of_lt parent name inside).symm
      · rw [numberOf_of_size_le (Nat.le_of_not_lt inside)]
        exact Nat.zero_le _
  | declare scope declared =>
      by_cases felt : name = declared ∧ tree.Inherits declared scope position
      · obtain ⟨rfl, inherits⟩ := felt
        rw [perform, numberOf_declare_of_inherits admitted inherits,
          numberOf_eq_of_inherits inherits]
        exact Nat.le_succ _
      · exact Nat.le_of_eq (numberOf_declare_of_not felt).symm

/-- An operation raises what a name resolves to by at most one, and only if it
declares the name. -/
theorem numberOf_perform_le
    {tree : ScopeTree} {operation : Operation} {name : String} {bound : Nat}
    (admitted : tree.Admits operation)
    (bounded : ∀ position, tree.numberOf position name ≤ bound)
    (position : Nat) :
    (tree.perform operation).numberOf position name ≤
      bound + if operation.declares name then 1 else 0 := by
  cases operation with
  | openChild parent =>
      rcases Nat.lt_trichotomy position tree.size with before | rfl | behind
      · rw [perform, numberOf_openChild_of_lt parent name before]
        exact Nat.le_add_right_of_le (bounded position)
      · have opened := numberOf_openChild_self tree parent name
        rw [perform]
        exact Nat.le_add_right_of_le (opened ▸ bounded parent)
      · have outside : (tree.openChild parent).2.size ≤ position := by
          rw [size_openChild]
          exact behind
        rw [perform, numberOf_of_size_le outside]
        exact Nat.zero_le _
  | declare scope declared =>
      by_cases felt : name = declared ∧ tree.Inherits declared scope position
      · obtain ⟨rfl, inherits⟩ := felt
        have declares : (Operation.declare scope name).declares name = true :=
          decide_eq_true rfl
        rw [perform, numberOf_declare_of_inherits admitted inherits, declares]
        exact Nat.succ_le_succ (bounded scope)
      · rw [perform, numberOf_declare_of_not felt]
        exact Nat.le_add_right_of_le (bounded position)

/-! ## Histories -/

/-- Names never come to resolve to less. -/
theorem Leads.numberOf_le
    {before after : ScopeTree} {operations : List Operation}
    (leads : Leads before operations after) (position : Nat)
    (name : String) :
    before.numberOf position name ≤ after.numberOf position name := by
  induction leads with
  | nothing tree =>
      exact Nat.le_refl _
  | operation operation admitted leads inductionHypothesis =>
      exact Nat.le_trans (numberOf_le_perform admitted position name)
        inductionHypothesis

/-- A name resolves to at most the number of its declarations more than
before. -/
theorem Leads.numberOf_le_add_declarations
    {before after : ScopeTree} {operations : List Operation}
    {name : String} {bound : Nat}
    (leads : Leads before operations after)
    (bounded : ∀ position, before.numberOf position name ≤ bound)
    (position : Nat) :
    after.numberOf position name ≤ bound + declarations name operations := by
  induction leads generalizing bound with
  | nothing tree =>
      exact bounded position
  | operation operation admitted leads inductionHypothesis =>
      have later :=
        inductionHypothesis (numberOf_perform_le admitted bounded)
      rw [declarations, List.countP_cons]
      rw [declarations] at later
      omega

/-- From the root alone no name comes to resolve to more than the number of
its declarations. -/
theorem Leads.numberOf_le_declarations
    {tree : ScopeTree} {operations : List Operation}
    (leads : Leads root operations tree) (position : Nat) (name : String) :
    tree.numberOf position name ≤ declarations name operations := by
  have bounded (other : Nat) : root.numberOf other name ≤ 0 :=
    Nat.le_of_eq (numberOf_root other name)
  have bound := leads.numberOf_le_add_declarations bounded position
  rwa [Nat.zero_add] at bound

/-- After a declaration in a scope, a later one gives a higher number there. -/
theorem number_declare_lt
    {tree after : ScopeTree} {scope : Nat} {name : String}
    {later : List Operation} (inside : scope < tree.size)
    (leads : Leads (tree.declare scope name).2 later after) :
    (tree.declare scope name).1.number <
      (after.declare scope name).1.number := by
  have itself : tree.Inherits name scope scope := .self
  have resolved := numberOf_declare_of_inherits inside itself
  have kept := leads.numberOf_le scope name
  rw [resolved] at kept
  exact Nat.lt_succ_of_le kept

/-- A number that is one higher than a number below the bound of a word is
computed without overflow. -/
private theorem toNat_ofNat_add_one {number : Nat}
    (fits : number + 1 < UInt64.size) :
    (UInt64.ofNat number + 1).toNat = number + 1 := by
  rw [UInt64.toNat_add, UInt64.toNat_ofNat_of_lt' (Nat.lt_of_succ_lt fits)]
  exact Nat.mod_eq_of_lt fits

/-- What operations do to a tree that a history of operations has led to. A
declaration makes its name resolve to one more from the scope and from the
scopes that inherit it from there, and leaves every other name and every other
scope alone. A new scope resolves every name as its parent does. No name ever
comes to resolve to less, and the numbers given to one name in one scope
increase strictly. No number exceeds the number of declarations of its name, so
a 64-bit word holds the next one as long as there are less than `2^64`. -/
theorem operations_have_exact_frame
    {operations : List Operation} {tree : ScopeTree} {scope : Nat}
    (leads : Leads root operations tree) (inside : scope < tree.size)
    (name : String) :
    let declared := tree.declare scope name
    let opened := tree.openChild scope
    (declared.1 = ⟨name, tree.numberOf scope name + 1⟩ ∧
      declared.2.size = tree.size ∧
      (∀ other, tree.Inherits name scope other →
        declared.2.numberOf other name = tree.numberOf scope name + 1) ∧
      ∀ other resolved,
        ¬(resolved = name ∧ tree.Inherits name scope other) →
        declared.2.numberOf other resolved =
          tree.numberOf other resolved) ∧
    (opened.1 = tree.size ∧ opened.2.size = tree.size + 1 ∧
      ∀ resolved,
        opened.2.numberOf opened.1 resolved =
            tree.numberOf scope resolved ∧
          ∀ other < tree.size,
            opened.2.numberOf other resolved =
              tree.numberOf other resolved) ∧
    (∀ later after, Leads tree later after → ∀ other resolved,
      tree.numberOf other resolved ≤ after.numberOf other resolved) ∧
    (∀ later after, Leads declared.2 later after →
      declared.1.number < (after.declare scope name).1.number) ∧
    (∀ other resolved,
      tree.numberOf other resolved ≤ declarations resolved operations) ∧
    (declarations name operations + 1 < UInt64.size →
      (UInt64.ofNat (tree.numberOf scope name) + 1).toNat =
        declared.1.number) := by
  intro declared opened
  refine ⟨⟨rfl, size_declare tree scope name, ?_, ?_⟩,
    ⟨rfl, size_openChild tree scope, ?_⟩, ?_, ?_, ?_, ?_⟩
  · intro other inherits
    exact numberOf_declare_of_inherits inside inherits
  · intro other resolved apart
    exact numberOf_declare_of_not apart
  · intro resolved
    refine ⟨numberOf_openChild_self tree scope resolved, ?_⟩
    intro other before
    exact numberOf_openChild_of_lt scope resolved before
  · intro later after leadsOn other resolved
    exact leadsOn.numberOf_le other resolved
  · intro later after leadsOn
    exact number_declare_lt inside leadsOn
  · intro other resolved
    exact leads.numberOf_le_declarations other resolved
  · intro few
    have bound := leads.numberOf_le_declarations scope name
    exact toNat_ofNat_add_one
      (Nat.lt_of_le_of_lt (Nat.succ_le_succ bound) few)

/-- A scope declares a name that one of its two children has declared already.
This child keeps its number, the other one takes the new number, and the root
does not change. -/
theorem late_declaration_has_exact_frame :
    let operations : List Operation :=
      [.openChild 0, .openChild 1, .openChild 1, .declare 2 "x",
        .declare 2 "x"]
    ∃ tree, Leads root operations tree ∧ 1 < tree.size ∧
      (tree.declare 1 "x").1 = ⟨"x", tree.numberOf 1 "x" + 1⟩ ∧
      (tree.declare 1 "x").2.numberOf 3 "x" = tree.numberOf 1 "x" + 1 ∧
      (tree.declare 1 "x").2.numberOf 2 "x" = tree.numberOf 2 "x" ∧
      (tree.declare 1 "x").2.numberOf 0 "x" = tree.numberOf 0 "x" ∧
      tree.numberOf 1 "x" = 0 ∧ tree.numberOf 2 "x" = 2 := by
  intro operations
  have leads : Leads root operations (operations.foldl perform root) :=
    .operation _ (by decide) <| .operation _ (by decide) <|
      .operation _ (by decide) <| .operation _ (by decide) <|
      .operation _ (by decide) <| .nothing _
  have inside : 1 < (operations.foldl perform root).size := by
    decide
  obtain ⟨⟨identifier, _, felt, unfelt⟩, _⟩ :=
    operations_have_exact_frame leads inside "x"
  refine ⟨_, leads, inside, identifier, felt 3 ?_, unfelt 2 "x" ?_,
    unfelt 0 "x" ?_, by decide +kernel, by decide +kernel⟩
  · have found : (operations.foldl perform root).scopes[3]? =
        some ⟨[], some 1⟩ := by
      decide +kernel
    exact .throughParent found rfl rfl .self
  · rintro ⟨_, inherits⟩
    have found : (operations.foldl perform root).scopes[2]? =
        some ⟨[("x", 2), ("x", 1)], some 1⟩ := by
      decide +kernel
    cases inherits with
    | throughParent foundAgain unrecorded enclosed inherited =>
        cases found.symm.trans foundAgain
        cases unrecorded
  · rintro ⟨_, inherits⟩
    exact absurd (le_of_inherits inherits) (by decide)

end ScopeTree

end NumberedLambda
