import NumberedLambda.Identifier

/-!
# Scopes

The scopes of one term form a tree. Each scope records the numbers that were
given to the names declared in it, and knows the scope that encloses it. A
name resolves to the number that the nearest enclosing scope records for it,
and to zero if none does; declaring a name records one more than what the name
resolves to at that place.

A tree is kept as a list of its scopes in the order in which they were opened,
and a scope is referred to by its position. The enclosing scope always comes
before the scope itself, which is why resolving a name ends.

What each operation does is said in terms of the numbers that names resolve
to. Opening a scope changes nothing for the scopes before it
(`numberOf_openChild_of_lt`) and makes the new one resolve every name as its
parent does (`numberOf_openChild_self`). Recording a number is felt from a
scope if no nearer scope records the name (`numberOf_record_self`,
`numberOf_record_of_parent`), and never for other names
(`numberOf_record_of_ne`).
-/

namespace NumberedLambda

/-- The names declared in one scope with their numbers, latest first, and the
position of the enclosing scope. -/
structure Scope where
  numbers : List (String × Nat)
  parent : Option Nat
deriving DecidableEq, Repr

/-- All scopes opened so far, each after the one that encloses it. -/
structure ScopeTree where
  scopes : Array Scope
  parent_lt : ∀ {position : Nat} {scope : Scope} {parent : Nat},
    scopes[position]? = some scope → scope.parent = some parent →
      parent < position

namespace ScopeTree

/-- The tree of a single scope that declares nothing. -/
def root : ScopeTree where
  scopes := #[⟨[], none⟩]
  parent_lt := by
    intro position scope parent found enclosed
    cases position with
    | zero =>
        cases found
        cases enclosed
    | succ position =>
        simp at found

/-- The number of scopes in the tree. -/
def size (tree : ScopeTree) : Nat :=
  tree.scopes.size

/-- The number that a name resolves to from a scope. -/
def numberOf (tree : ScopeTree) (position : Nat) (name : String) : Nat :=
  match _ : tree.scopes[position]? with
  | none => 0
  | some scope =>
      match scope.numbers.lookup name with
      | some number => number
      | none =>
          match _ : scope.parent with
          | none => 0
          | some parent => tree.numberOf parent name
termination_by position
decreasing_by exact tree.parent_lt ‹_› ‹_›

/-- The identifier that a use of a name stands for. -/
def identify (tree : ScopeTree) (position : Nat) (name : String) :
    Identifier :=
  ⟨name, tree.numberOf position name⟩

/-- Open a scope inside another one. The answer holds its position and the
tree that includes it. -/
def openChild (tree : ScopeTree) (parent : Nat) : Nat × ScopeTree :=
  (tree.size,
    { scopes :=
        tree.scopes.push
          ⟨[], if parent < tree.size then some parent else none⟩
      parent_lt := by
        intro position scope enclosing found enclosed
        rw [Array.getElem?_push] at found
        split at found
        · rename_i atEnd
          cases found
          simp only at enclosed
          split at enclosed
          · cases enclosed
            rw [atEnd]
            assumption
          · cases enclosed
        · exact tree.parent_lt found enclosed })

/-- Record a number for a name in one scope. -/
def record (tree : ScopeTree) (position : Nat) (name : String)
    (number : Nat) : ScopeTree where
  scopes :=
    tree.scopes.modify position fun scope =>
      { scope with numbers := (name, number) :: scope.numbers }
  parent_lt := by
    intro other scope parent found enclosed
    rw [Array.getElem?_modify] at found
    split at found
    · obtain ⟨before, foundBefore, rfl⟩ := Option.map_eq_some_iff.mp found
      exact tree.parent_lt foundBefore enclosed
    · exact tree.parent_lt found enclosed

/-- Declare a name in a scope. Its number is one more than the name resolved
to before, so the new identifier differs from every identifier of that name
that is in force there. -/
def declare (tree : ScopeTree) (position : Nat) (name : String) :
    Identifier × ScopeTree :=
  let number := tree.numberOf position name + 1
  (⟨name, number⟩, tree.record position name number)

/-! ## Resolving names -/

/-- One step of resolving a name: what the scope itself records, or what its
parent resolves the name to. -/
theorem numberOf_of_getElem?
    {tree : ScopeTree} {position : Nat} {scope : Scope}
    (found : tree.scopes[position]? = some scope) (name : String) :
    tree.numberOf position name =
      (scope.numbers.lookup name).getD
        ((scope.parent.map fun parent => tree.numberOf parent name).getD
          0) := by
  rw [numberOf]
  split
  · rename_i outside
    rw [found] at outside
    cases outside
  · rename_i other foundOther
    cases found.symm.trans foundOther
    split
    · rename_i number recorded
      rw [recorded]
      rfl
    · rename_i unrecorded
      rw [unrecorded]
      split
      · rename_i noParent
        rw [noParent]
        rfl
      · rename_i parent enclosed
        rw [enclosed]
        rfl

/-- A position without a scope resolves no name. -/
theorem numberOf_of_size_le
    {tree : ScopeTree} {position : Nat} (outside : tree.size ≤ position)
    (name : String) :
    tree.numberOf position name = 0 := by
  rw [numberOf]
  split
  · rfl
  · rename_i scope found
    have none := Array.getElem?_eq_none_iff.mpr outside
    rw [none] at found
    cases found

@[simp]
theorem numberOf_root (position : Nat) (name : String) :
    root.numberOf position name = 0 := by
  cases position with
  | zero =>
      have found : root.scopes[0]? = some ⟨[], none⟩ := rfl
      exact numberOf_of_getElem? found name
  | succ position =>
      exact numberOf_of_size_le (Nat.succ_le_succ (Nat.zero_le _)) name

@[simp]
theorem size_openChild (tree : ScopeTree) (parent : Nat) :
    (tree.openChild parent).2.size = tree.size + 1 := by
  simp [size, openChild]

@[simp]
theorem size_record (tree : ScopeTree) (position : Nat) (name : String)
    (number : Nat) :
    (tree.record position name number).size = tree.size := by
  simp [size, record]

@[simp]
theorem size_declare (tree : ScopeTree) (position : Nat) (name : String) :
    (tree.declare position name).2.size = tree.size :=
  size_record tree position name _

private theorem getElem?_openChild_of_lt
    {tree : ScopeTree} {position : Nat} (parent : Nat)
    (inside : position < tree.size) :
    (tree.openChild parent).2.scopes[position]? = tree.scopes[position]? :=
  Array.getElem?_push_lt inside |>.trans
    (Array.getElem?_eq_getElem inside).symm

/-- Opening a scope does not change what the scopes before it resolve. -/
theorem numberOf_openChild_of_lt
    {tree : ScopeTree} {position : Nat} (parent : Nat) (name : String)
    (inside : position < tree.size) :
    (tree.openChild parent).2.numberOf position name =
      tree.numberOf position name := by
  induction position using Nat.strongRecOn with
  | ind position inductionHypothesis =>
      have found := Array.getElem?_eq_getElem inside
      rw [numberOf_of_getElem? found,
        numberOf_of_getElem? ((getElem?_openChild_of_lt _ inside).trans found)]
      congr 1
      cases enclosed : (tree.scopes[position]).parent with
      | none =>
          rfl
      | some enclosing =>
          have before := tree.parent_lt found enclosed
          exact inductionHypothesis enclosing before
            (Nat.lt_trans before inside)

/-- A new scope resolves every name as its parent does. -/
theorem numberOf_openChild_self
    (tree : ScopeTree) (parent : Nat) (name : String) :
    (tree.openChild parent).2.numberOf (tree.openChild parent).1 name =
      tree.numberOf parent name := by
  have found :
      (tree.openChild parent).2.scopes[tree.size]? =
        some ⟨[], if parent < tree.size then some parent else none⟩ :=
    Array.getElem?_push_size
  refine (numberOf_of_getElem? found name).trans ?_
  by_cases inside : parent < tree.size
  · simp only [inside, if_true]
    exact numberOf_openChild_of_lt parent name inside
  · simp only [inside, if_false]
    exact (numberOf_of_size_le (Nat.le_of_not_lt inside) name).symm

private theorem getElem?_record
    (tree : ScopeTree) (position : Nat) (name : String) (number : Nat)
    (other : Nat) :
    (tree.record position name number).scopes[other]? =
      (tree.scopes[other]?).map fun scope =>
        if position = other then
          { scope with numbers := (name, number) :: scope.numbers }
        else
          scope := by
  rw [record, Array.getElem?_modify]
  split
  · rfl
  · simp

/-- The scope in which a number was recorded resolves the name to it. -/
theorem numberOf_record_self
    {tree : ScopeTree} {position : Nat} (name : String) (number : Nat)
    (inside : position < tree.size) :
    (tree.record position name number).numberOf position name = number := by
  have found := Array.getElem?_eq_getElem inside
  have recorded := getElem?_record tree position name number position
  rw [found, Option.map_some, if_pos rfl] at recorded
  rw [numberOf_of_getElem? recorded, List.lookup_cons_self]
  rfl

/-- Recording a number for one name does not change what other names resolve
to. -/
theorem numberOf_record_of_ne
    {tree : ScopeTree} (position other : Nat) {name otherName : String}
    (number : Nat) (different : otherName ≠ name) :
    (tree.record position name number).numberOf other otherName =
      tree.numberOf other otherName := by
  induction other using Nat.strongRecOn with
  | ind other inductionHypothesis =>
      cases found : tree.scopes[other]? with
      | none =>
          have outside : tree.size ≤ other :=
            Array.getElem?_eq_none_iff.mp found
          rw [numberOf_of_size_le outside,
            numberOf_of_size_le (by rwa [size_record])]
      | some scope =>
          have recorded := getElem?_record tree position name number other
          rw [found, Option.map_some] at recorded
          rw [numberOf_of_getElem? found, numberOf_of_getElem? recorded]
          have sameParent :
              (scope.parent.map fun parent =>
                  (tree.record position name number).numberOf parent
                    otherName) =
                scope.parent.map fun parent =>
                  tree.numberOf parent otherName := by
            cases enclosed : scope.parent with
            | none =>
                rfl
            | some enclosing =>
                exact congrArg some <|
                  inductionHypothesis enclosing
                    (tree.parent_lt found enclosed)
          split
          · simp only [List.lookup_cons, beq_false_of_ne different, sameParent]
          · rw [sameParent]

/-- From another scope that records the name nothing changes, and a scope that
does not record it follows its parent, before and after. -/
theorem numberOf_record_of_parent
    {tree : ScopeTree} {position other : Nat} {scope : Scope}
    (name : String) (number : Nat) (different : position ≠ other)
    (found : tree.scopes[other]? = some scope) :
    (tree.record position name number).numberOf other name =
      (scope.numbers.lookup name).getD
        ((scope.parent.map fun parent =>
          (tree.record position name number).numberOf parent name).getD
            0) := by
  have recorded := getElem?_record tree position name number other
  rw [found, Option.map_some, if_neg different] at recorded
  exact numberOf_of_getElem? recorded name

end ScopeTree

end NumberedLambda
