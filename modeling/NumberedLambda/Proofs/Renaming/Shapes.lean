import NumberedLambda.Proofs.Renaming.Correspondence
import NumberedLambda.Shape

/-!
# Equivalence of terms and their shapes

Two terms are equivalent exactly if they have one shape. Nothing has to be
assumed of their lists of parameters: what a variable belongs to is looked up
below the binders of its own side, so a binder that is shadowed on one side
only is as good as any other.

That equivalence is an equivalence relation is then a property of equality.
Below further binders a shape depends on nothing but the shape itself and these
binders (`shapeUnder_append`), so equivalence is a congruence as well.
-/

namespace NumberedLambda

/-- A shape that is put below the binders `outer`, which take its free
variables. The current place is `depth` binders deep in the shape. -/
def Shape.boundBy (outer : List Identifier) (depth : Nat) : Shape → Shape
  | .bound index => .bound index
  | .free identifier =>
      match outer.idxOf? identifier with
      | some index => .bound (index + depth)
      | none => .free identifier
  | .app operator operand =>
      .app (operator.boundBy outer depth) (operand.boundBy outer depth)
  | .lam count body => .lam count (body.boundBy outer (count + depth))

namespace Term

/-- Variables have the same shape if they are read in the same way. -/
theorem shapeUnder_var_eq_iff {leftBinders rightBinders : List Identifier}
    {left right : Identifier} :
    (var left).shapeUnder leftBinders = (var right).shapeUnder rightBinders ↔
      namelessVariable leftBinders left =
        namelessVariable rightBinders right := by
  rw [shapeUnder, shapeUnder, namelessVariable, namelessVariable]
  cases leftBinders.idxOf? left <;> cases rightBinders.idxOf? right <;> simp

theorem shapeUnder_var_ne_app {binders : List Identifier}
    {identifier : Identifier} {operator operand : Shape} :
    (var identifier).shapeUnder binders ≠ .app operator operand := by
  rw [shapeUnder]
  cases binders.idxOf? identifier <;> exact Shape.noConfusion

theorem shapeUnder_var_ne_lam {binders : List Identifier}
    {identifier : Identifier} {count : Nat} {body : Shape} :
    (var identifier).shapeUnder binders ≠ .lam count body := by
  rw [shapeUnder]
  cases binders.idxOf? identifier <;> exact Shape.noConfusion

/-- Two terms are equivalent below pairs of binders if their shapes below the
binders of their sides are the same. -/
theorem alphaEquivalentUnder_iff_shapeUnder_eq
    {pairs : List (Identifier × Identifier)} {left right : Term} :
    alphaEquivalentUnder pairs left right = true ↔
      left.shapeUnder (pairs.map Prod.fst) =
        right.shapeUnder (pairs.map Prod.snd) := by
  fun_induction alphaEquivalentUnder pairs left right with
  | case1 pairs left right =>
      rw [sameVariable_iff, shapeUnder_var_eq_iff]
  | case2 pairs leftOperator leftOperand rightOperator rightOperand
      operatorHypothesis operandHypothesis =>
      rw [Bool.and_eq_true, operatorHypothesis, operandHypothesis, shapeUnder,
        shapeUnder, Shape.app.injEq]
  | case3 pairs leftParameters leftBody rightParameters rightBody
      inductionHypothesis =>
      rw [Bool.and_eq_true, beq_iff_eq, inductionHypothesis, shapeUnder,
        shapeUnder, Shape.lam.injEq]
      -- The list of pairs is as long as the shorter list of parameters, so it
      -- has all binders of both sides only if the lengths are equal.
      apply and_congr_right
      intro sameLength
      rw [List.map_append, List.map_append, List.map_reverse,
        List.map_reverse, List.map_fst_zip (Nat.le_of_eq sameLength),
        List.map_snd_zip (Nat.le_of_eq sameLength.symm)]
  | case4 left pairs right noVariables noApplications noAbstractions =>
      apply iff_of_false Bool.false_ne_true
      intro sameShape
      cases left with
      | var identifier =>
          cases right with
          | var other =>
              exact noVariables _ _ rfl rfl
          | app operator operand =>
              exact shapeUnder_var_ne_app sameShape
          | lam parameters body =>
              exact shapeUnder_var_ne_lam sameShape
      | app operator operand =>
          cases right with
          | var other =>
              exact shapeUnder_var_ne_app sameShape.symm
          | app otherOperator otherOperand =>
              exact noApplications _ _ _ _ rfl rfl
          | lam parameters body =>
              cases sameShape
      | lam parameters body =>
          cases right with
          | var other =>
              exact shapeUnder_var_ne_lam sameShape.symm
          | app operator operand =>
              cases sameShape
          | lam otherParameters otherBody =>
              exact noAbstractions _ _ _ _ rfl rfl

/-- Putting a term below more binders changes its shape in a way that depends
on the shape alone. -/
theorem shapeUnder_append (inner outer : List Identifier) (term : Term) :
    term.shapeUnder (inner ++ outer) =
      (term.shapeUnder inner).boundBy outer inner.length := by
  induction term generalizing inner with
  | var identifier =>
      have found : (inner ++ outer).idxOf? identifier =
          (inner.idxOf? identifier).or
            ((outer.idxOf? identifier).map (· + inner.length)) :=
        List.findIdx?_append
      rw [shapeUnder, shapeUnder, found]
      cases inner.idxOf? identifier with
      | some index =>
          rfl
      | none =>
          rw [Option.none_or, Shape.boundBy]
          cases outer.idxOf? identifier <;> rfl
  | app operator operand operatorHypothesis operandHypothesis =>
      rw [shapeUnder, shapeUnder, Shape.boundBy, operatorHypothesis,
        operandHypothesis]
  | lam parameters body inductionHypothesis =>
      rw [shapeUnder, shapeUnder, Shape.boundBy, ← List.append_assoc,
        inductionHypothesis, List.length_append, List.length_reverse]

theorem alphaEquivalent_iff {left right : Term} :
    left.alphaEquivalent right = true ↔ left.shape = right.shape :=
  alphaEquivalentUnder_iff_shapeUnder_eq

/-- Terms of one shape have one shape below any binders. -/
theorem shapeUnder_eq_of_shape_eq {left right : Term}
    (sameShape : left.shape = right.shape) (binders : List Identifier) :
    left.shapeUnder binders = right.shapeUnder binders := by
  have leftBelow := shapeUnder_append [] binders left
  have rightBelow := shapeUnder_append [] binders right
  rw [shape, shape] at sameShape
  rw [List.nil_append] at leftBelow rightBelow
  rw [leftBelow, rightBelow, sameShape]

/-- Equivalence decides whether two terms have the same shape, for all terms
and whatever their lists of parameters are. It is an equivalence relation, and
it is kept by application and by abstraction over the same parameters. -/
theorem alphaEquivalent_decides_equal_shapes :
    (∀ left right : Term,
      left.alphaEquivalent right = true ↔ left.shape = right.shape) ∧
    Equivalence (fun left right : Term =>
      left.alphaEquivalent right = true) ∧
    (∀ leftOperator rightOperator leftOperand rightOperand : Term,
      leftOperator.alphaEquivalent rightOperator = true →
      leftOperand.alphaEquivalent rightOperand = true →
      (app leftOperator leftOperand).alphaEquivalent
        (app rightOperator rightOperand) = true) ∧
    ∀ (parameters : List Identifier) (leftBody rightBody : Term),
      leftBody.alphaEquivalent rightBody = true →
      (lam parameters leftBody).alphaEquivalent
        (lam parameters rightBody) = true := by
  refine ⟨fun _ _ => alphaEquivalent_iff, ?_, ?_, ?_⟩
  · simp only [alphaEquivalent_iff]
    constructor
    · intro term
      rfl
    · intro left right same
      exact same.symm
    · intro first second third same sameAgain
      exact same.trans sameAgain
  · intro leftOperator rightOperator leftOperand rightOperand operators
      operands
    rw [alphaEquivalent_iff] at operators operands ⊢
    rw [shape, shape, shapeUnder, shapeUnder, Shape.app.injEq]
    exact ⟨operators, operands⟩
  · intro parameters leftBody rightBody bodies
    rw [alphaEquivalent_iff] at bodies ⊢
    rw [shape, shape, shapeUnder, shapeUnder, Shape.lam.injEq]
    exact ⟨rfl, shapeUnder_eq_of_shape_eq bodies _⟩

/-- Of equal parameters in one list the last one binds. -/
example :
    (lam [⟨"x", 1⟩, ⟨"x", 1⟩] (var ⟨"x", 1⟩)).alphaEquivalent
      (lam [⟨"x", 1⟩, ⟨"y", 1⟩] (var ⟨"y", 1⟩)) = true := by
  decide

end Term

end NumberedLambda
