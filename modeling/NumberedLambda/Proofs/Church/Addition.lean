import NumberedLambda.Proofs.Church.Numerals
import NumberedLambda.Proofs.Reduction.Budgets
import NumberedLambda.Proofs.Renaming.Shapes

/-!
# Evaluation of sums

A sum is evaluated in five passes. The first two give addition its numbers, the
third gives both numbers their function, the fourth gives the first number its
argument, and the fifth does the same for the second number.

The terms on the way have many binders with equal identifiers, one inside the
other. Still nothing is captured: numbers have no free identifiers, the function
is put below a binder of the argument only, and the argument below none.
-/

namespace NumberedLambda

namespace Church

open Term (passes)

variable {operand : Term} (first second number count : Nat)

/-! ## Iterated application -/

theorem iterate_add :
    iterate operand (first + second) =
      iterate (iterate operand second) first := by
  induction first with
  | zero =>
      rw [Nat.zero_add, iterate]
  | succ first inductionHypothesis =>
      rw [Nat.succ_add, iterate, iterate, inductionHypothesis]

theorem iterate_injective {first second : Term}
    (same : iterate first count = iterate second count) :
    first = second := by
  induction count with
  | zero =>
      exact same
  | succ count inductionHypothesis =>
      exact inductionHypothesis (Term.app.inj same).2

theorem pass_iterate :
    (iterate operand count).pass = iterate operand.pass count := by
  induction count with
  | zero =>
      rfl
  | succ count inductionHypothesis =>
      rw [iterate, Term.pass_app_of_not_isLam _ rfl, inductionHypothesis]
      rfl

theorem replace_iterate {target : Identifier} (value : Term)
    (other : function ≠ target) :
    (iterate operand count).replace target value =
      iterate (operand.replace target value) count := by
  induction count with
  | zero =>
      rfl
  | succ count inductionHypothesis =>
      rw [iterate, Term.replace, inductionHypothesis, Term.replace,
        if_neg other, iterate]

theorem mem_free_iterate {identifier : Identifier}
    (member : identifier ∈ (iterate operand count).free) :
    identifier = function ∨ identifier ∈ operand.free := by
  induction count with
  | zero =>
      exact Or.inr member
  | succ count inductionHypothesis =>
      rcases Term.mem_free_app.mp member with inFunction | inOperand
      · exact Or.inl (Term.mem_free_var.mp inFunction)
      · exact inductionHypothesis inOperand

/-! ## Numbers -/

theorem not_mem_free_numeral (identifier : Identifier) :
    identifier ∉ (numeral number).free := by
  intro member
  obtain ⟨inBody, unbound⟩ := Term.mem_free_lam.mp member
  rcases mem_free_iterate number inBody with rfl | atArgument
  · exact unbound (List.mem_cons_self ..)
  · rw [Term.mem_free_var] at atArgument
    subst atArgument
    exact unbound (List.mem_cons_of_mem _ (List.mem_cons_self ..))

@[simp]
theorem replace_numeral (target : Identifier) (value : Term) :
    (numeral number).replace target value = numeral number :=
  Term.replace_eq_self_of_not_mem_free (not_mem_free_numeral number target)

@[simp]
theorem pass_numeral : (numeral number).pass = numeral number := by
  rw [numeral, Term.pass, pass_iterate, Term.pass]

/-- A number that has its function. -/
def repetition : Term :=
  .lam [argument] (iterate (.var argument) number)

theorem pass_numeral_function :
    (Term.app (numeral number) (.var function)).pass = repetition number := by
  rw [numeral, Term.pass, Term.contract, Term.replace_self, repetition]

theorem pass_repetition (operand : Term) :
    (Term.app (repetition number) operand).pass = iterate operand number := by
  rw [repetition, Term.pass, Term.contract,
    replace_iterate number operand (by decide), Term.replace, if_pos rfl]

/-! ## The passes over a sum -/

/-- The body of addition, with terms in place of the numbers. -/
def combination (first second : Term) : Term :=
  .app (.app first (.var function))
    (.app (.app second (.var function)) (.var argument))

/-- Addition that has its first number. -/
def additionTo : Term :=
  .lam [secondNumber, function, argument]
    (combination (numeral first) (.var secondNumber))

/-- Addition that has both its numbers. -/
def additionOf : Term :=
  .lam [function, argument] (combination (numeral first) (numeral second))

/-- The repetition of the second number before the repetition of the first. -/
def composition : Term :=
  .lam [function, argument]
    (.app (repetition first) (.app (repetition second) (.var argument)))

/-- The first number applies the function to what the second one will give. -/
def firstDone : Term :=
  .lam [function, argument]
    (iterate (.app (repetition second) (.var argument)) first)

theorem replace_secondNumber :
    (combination (numeral first) (.var secondNumber)).replace secondNumber
        (numeral second) =
      combination (numeral first) (numeral second) := by
  simp only [combination, Term.replace, replace_numeral]
  rfl

theorem pass_addition :
    (Term.app addition (numeral first)).pass = additionTo first :=
  rfl

theorem pass_sum :
    (sum first second).pass =
      .app (additionTo first) (numeral second) := by
  rw [sum, Term.pass_app_of_not_isLam _ rfl, pass_addition, pass_numeral]

theorem pass_additionTo :
    (Term.app (additionTo first) (numeral second)).pass =
      additionOf first second := by
  rw [additionTo, Term.pass, Term.contract, replace_secondNumber, additionOf]

theorem pass_additionOf :
    (additionOf first second).pass = composition first second := by
  have secondApplied :
      (Term.app (.app (numeral second) (.var function))
        (.var argument)).pass =
      .app (repetition second) (.var argument) := by
    rw [Term.pass_app_of_not_isLam _ rfl, pass_numeral_function, Term.pass]
  rw [additionOf, Term.pass, combination, Term.pass_app_of_not_isLam _ rfl,
    pass_numeral_function, secondApplied, composition]

theorem pass_composition :
    (composition first second).pass = firstDone first second := by
  rw [composition, Term.pass, pass_repetition, firstDone]

theorem pass_firstDone :
    (firstDone first second).pass = numeral (first + second) := by
  rw [firstDone, Term.pass, pass_iterate, pass_repetition, ← iterate_add,
    numeral]

/-- The second number has not yet had its turn. -/
theorem firstDone_ne_numeral :
    firstDone first second ≠ numeral (first + second) := by
  intro same
  have sameBody := (Term.lam.inj same).2
  rw [iterate_add] at sameBody
  -- On one side an abstraction is applied, on the other the function, if any.
  have sameOperand := iterate_injective first sameBody
  cases second <;> cases sameOperand

theorem passes_sum :
    passes 4 (sum first second) = firstDone first second := by
  rw [passes, passes, passes, passes, passes, pass_sum, pass_additionTo,
    pass_additionOf, pass_composition]

/-- All five passes are needed: the last of them still changes the term. -/
theorem normalize_sum {maxSteps : Nat} (enough : 5 ≤ maxSteps) :
    (sum first second).normalize maxSteps =
      { term := numeral (first + second)
        steps := 5
        converged := true } := by
  have last : passes 5 (sum first second) = numeral (first + second) := by
    rw [Term.passes_succ, passes_sum, pass_firstDone]
  have changed : passes 5 (sum first second) ≠ passes 4 (sum first second) := by
    rw [last, passes_sum]
    exact (firstDone_ne_numeral first second).symm
  have arrived :
      (passes 5 (sum first second)).pass = passes 5 (sum first second) := by
    rw [last, pass_numeral]
  have stops : (sum first second).StopsAfter maxSteps 5 :=
    .of_last_change changed arrived enough
  rw [stops.normalize_eq, last, pass_numeral, decide_eq_true rfl]

/-- The text of a sum of two numbers is read and evaluated to the number that
the text of their sum is read as, in exactly five passes. -/
theorem sum_evaluates_in_five_passes (first second : Nat) {maxSteps : Nat}
    (enough : 5 ≤ maxSteps) :
    ∃ term result,
      Term.parse (sumText first second) = .ok term ∧
      Term.parse (numeralText (first + second)) = .ok result ∧
      (term.normalize maxSteps).converged = true ∧
      (term.normalize maxSteps).steps = 5 ∧
      (term.normalize maxSteps).term.alphaEquivalent result = true := by
  refine ⟨sum first second, numeral (first + second),
    parse_sumText first second, parse_numeralText (first + second), ?_⟩
  rw [normalize_sum first second enough]
  exact ⟨rfl, rfl, Term.alphaEquivalent_iff.mpr rfl⟩

/-- Two and nothing, with no pass to spare. -/
theorem two_plus_zero_evaluates :
    ∃ term result, 5 ≤ 5 ∧
      Term.parse "(\\m n f x. m f (n f x)) (\\f x. f (f x)) (\\f x. x)" =
        .ok term ∧
      Term.parse "(\\f x. f (f x))" = .ok result ∧
      (term.normalize 5).converged = true ∧
      (term.normalize 5).steps = 5 ∧
      (term.normalize 5).term.alphaEquivalent result = true := by
  obtain ⟨term, result, read, resultRead, evaluated⟩ :=
    sum_evaluates_in_five_passes 2 0 (Nat.le_refl 5)
  exact ⟨term, result, Nat.le_refl 5, read, resultRead, evaluated⟩

end Church

end NumberedLambda
