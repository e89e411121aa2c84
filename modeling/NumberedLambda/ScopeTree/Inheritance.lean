import NumberedLambda.ScopeTree

/-!
# Where a declaration is felt

A scope that does not record a name itself takes what its parent resolves the
name to. The scopes that resolve a name through a given scope, over any number
of parents, are said to inherit it from there. A number that is recorded in a
scope is what the name resolves to from the scopes that inherit it, and from no
others (`numberOf_record_of_inherits`, `numberOf_record_of_not_inherits`).
-/

namespace NumberedLambda

namespace ScopeTree

/-- What can be done to a tree of scopes. -/
inductive Operation where
  | openChild (parent : Nat)
  | declare (scope : Nat) (name : String)
deriving DecidableEq, Repr

/-- The tree after an operation. -/
def perform (tree : ScopeTree) : Operation → ScopeTree
  | .openChild parent => (tree.openChild parent).2
  | .declare scope name => (tree.declare scope name).2

/-- An operation that refers to a scope of the tree. -/
def Admits (tree : ScopeTree) : Operation → Prop
  | .openChild parent => parent < tree.size
  | .declare scope _ => scope < tree.size

instance (tree : ScopeTree) :
    (operation : Operation) → Decidable (tree.Admits operation)
  | .openChild parent => inferInstanceAs (Decidable (parent < tree.size))
  | .declare scope _ => inferInstanceAs (Decidable (scope < tree.size))

/-- A tree leads to another one by operations that refer to scopes which are
there when their turn comes. -/
inductive Leads : ScopeTree → List Operation → ScopeTree → Prop where
  | nothing (tree : ScopeTree) : Leads tree [] tree
  | operation {before after : ScopeTree} {later : List Operation}
      (operation : Operation) :
      before.Admits operation → Leads (before.perform operation) later after →
        Leads before (operation :: later) after

/-- Whether an operation declares a name. -/
def Operation.declares (name : String) : Operation → Bool
  | .openChild _ => false
  | .declare _ declared => declared = name

/-- How often a name is declared. -/
def declarations (name : String) (operations : List Operation) : Nat :=
  operations.countP (Operation.declares name)

/-- A scope inherits a name from `outer` if it is that scope, or if it does
not record the name and its parent inherits it. -/
inductive Inherits (tree : ScopeTree) (name : String) (outer : Nat) :
    Nat → Prop where
  | self : Inherits tree name outer outer
  | throughParent {position parent : Nat} {scope : Scope} :
      tree.scopes[position]? = some scope →
      scope.numbers.lookup name = none →
      scope.parent = some parent →
      Inherits tree name outer parent → Inherits tree name outer position

/-- A scope resolves an inherited name as the scope does from which it is
inherited. -/
theorem numberOf_eq_of_inherits
    {tree : ScopeTree} {name : String} {outer inner : Nat}
    (inherits : tree.Inherits name outer inner) :
    tree.numberOf inner name = tree.numberOf outer name := by
  induction inherits with
  | self =>
      rfl
  | throughParent found unrecorded enclosed inherited inductionHypothesis =>
      rw [numberOf_of_getElem? found, unrecorded, enclosed]
      exact inductionHypothesis

/-- Whatever inherits from a scope does not come before it. -/
theorem le_of_inherits
    {tree : ScopeTree} {name : String} {outer inner : Nat}
    (inherits : tree.Inherits name outer inner) :
    outer ≤ inner := by
  induction inherits with
  | self =>
      exact Nat.le_refl _
  | throughParent found unrecorded enclosed inherited inductionHypothesis =>
      exact Nat.le_trans inductionHypothesis
        (Nat.le_of_lt (tree.parent_lt found enclosed))

/-- What is recorded in a scope is felt wherever the name is inherited from
there. -/
theorem numberOf_record_of_inherits
    {tree : ScopeTree} {name : String} {outer inner : Nat} (number : Nat)
    (inside : outer < tree.size) (inherits : tree.Inherits name outer inner) :
    (tree.record outer name number).numberOf inner name = number := by
  induction inherits with
  | self =>
      exact numberOf_record_self name number inside
  | throughParent found unrecorded enclosed inherited inductionHypothesis =>
      have behind : outer ≠ _ :=
        Nat.ne_of_lt (Nat.lt_of_le_of_lt (le_of_inherits inherited)
          (tree.parent_lt found enclosed))
      rw [numberOf_record_of_parent name number behind found, unrecorded,
        enclosed]
      exact inductionHypothesis

/-- It is not felt anywhere else. -/
theorem numberOf_record_of_not_inherits
    {tree : ScopeTree} {name : String} {outer inner : Nat} (number : Nat)
    (apart : ¬tree.Inherits name outer inner) :
    (tree.record outer name number).numberOf inner name =
      tree.numberOf inner name := by
  induction inner using Nat.strongRecOn with
  | ind inner inductionHypothesis =>
      have different : outer ≠ inner := by
        rintro rfl
        exact apart .self
      cases found : tree.scopes[inner]? with
      | none =>
          have outside : tree.size ≤ inner :=
            Array.getElem?_eq_none_iff.mp found
          rw [numberOf_of_size_le outside,
            numberOf_of_size_le (by rwa [size_record])]
      | some scope =>
          rw [numberOf_of_getElem? found,
            numberOf_record_of_parent name number different found]
          cases recorded : scope.numbers.lookup name with
          | some own =>
              rfl
          | none =>
              cases enclosed : scope.parent with
              | none =>
                  rfl
              | some parent =>
                  have apartFromParent : ¬tree.Inherits name outer parent :=
                    fun inherited =>
                      apart (.throughParent found recorded enclosed inherited)
                  exact inductionHypothesis parent
                    (tree.parent_lt found enclosed) apartFromParent

end ScopeTree

end NumberedLambda
