import NumberedLambda.Proofs.Reduction.FirstPass
import NumberedLambda.Proofs.Reduction.Independence
import NumberedLambda.Proofs.Reduction.Meaning
import NumberedLambda.Proofs.Renaming.Normalization

/-!
# Renamed programs

Two programs that differ in the names of their bound variables are normalized
to terms that differ in nothing else, as long as no pass captures anything.
They stop after the same number of passes, except that one more pass may be
needed where a part of the result reproduces itself, because a term counts as
unchanged only if its identifiers are unchanged too
(`normalize_depends_on_names`).
-/

namespace NumberedLambda

namespace Term

theorem capturesNothing_before {parser after : Parser} {term : Term}
    (parsed : parser.parse = .ok term after) {steps : Nat}
    (kept : ∀ count < steps, 0 < count →
      (passes count term).CapturesNothing) :
    ∀ count < steps, (passes count term).CapturesNothing := by
  intro count before
  cases count with
  | zero =>
      exact capturesNothing_of_parse parsed
  | succ count =>
      exact kept (count + 1) before (Nat.succ_pos count)

/-- Two terms that are read and are equivalent have equivalent results of
normalization if no pass after the first one captures anything in either of
them. The numbers of passes differ by at most one. They are the same, and so is
whether the limit was reached, unless a part of a result reproduces itself. -/
theorem normalize_of_alphaEquivalent
    {leftParser leftAfter rightParser rightAfter : Parser}
    {left right : Term}
    (leftParsed : leftParser.parse = .ok left leftAfter)
    (rightParsed : rightParser.parse = .ok right rightAfter)
    (equivalent : left.alphaEquivalent right = true) (maxSteps : Nat)
    (leftKept : ∀ count < (left.normalize maxSteps).steps, 0 < count →
      (passes count left).CapturesNothing)
    (rightKept : ∀ count < (right.normalize maxSteps).steps, 0 < count →
      (passes count right).CapturesNothing) :
    (left.normalize maxSteps).term.alphaEquivalent
        (right.normalize maxSteps).term = true ∧
      (left.normalize maxSteps).steps ≤
        (right.normalize maxSteps).steps + 1 ∧
      (right.normalize maxSteps).steps ≤
        (left.normalize maxSteps).steps + 1 ∧
      ((∀ parameter,
          ¬ (left.normalize maxSteps).term.Contains (omega parameter) ∧
          ¬ (right.normalize maxSteps).term.Contains (omega parameter)) →
        (left.normalize maxSteps).steps =
            (right.normalize maxSteps).steps ∧
          (left.normalize maxSteps).converged =
            (right.normalize maxSteps).converged) := by
  have leftProper : left.ProperParameters :=
    .of_wellFormed (Parser.wellFormed_of_parse leftParsed)
  have rightProper : right.ProperParameters :=
    .of_wellFormed (Parser.wellFormed_of_parse rightParsed)
  have leftNothing := capturesNothing_before leftParsed leftKept
  have rightNothing := capturesNothing_before rightParsed rightKept
  have renamed := alphaEquivalentUnder_iff.mp equivalent
  have forward := normalize_of_steps_le renamed leftProper rightProper
    leftNothing rightNothing
  have backward := normalize_of_steps_le renamed.symm rightProper leftProper
    rightNothing leftNothing
  rcases Nat.le_total (left.normalize maxSteps).steps
      (right.normalize maxSteps).steps with leftFirst | rightFirst
  · obtain ⟨results, atMost, unlessOmega⟩ := forward leftFirst
    refine ⟨alphaEquivalentUnder_iff.mpr results,
      Nat.le_succ_of_le leftFirst, atMost, ?_⟩
    intro noOmega
    obtain ⟨sameSteps, rightConverges⟩ :=
      unlessOmega fun parameter => (noOmega parameter).1
    have leftConverges := ((backward (Nat.le_of_eq sameSteps)).2.2
      fun parameter => (noOmega parameter).2).2
    exact ⟨sameSteps.symm,
      Bool.eq_iff_iff.mpr ⟨rightConverges, leftConverges⟩⟩
  · obtain ⟨results, atMost, unlessOmega⟩ := backward rightFirst
    refine ⟨alphaEquivalentUnder_iff.mpr results.symm, atMost,
      Nat.le_succ_of_le rightFirst, ?_⟩
    intro noOmega
    obtain ⟨sameSteps, leftConverges⟩ :=
      unlessOmega fun parameter => (noOmega parameter).2
    have rightConverges := ((forward (Nat.le_of_eq sameSteps)).2.2
      fun parameter => (noOmega parameter).1).2
    exact ⟨sameSteps,
      Bool.eq_iff_iff.mpr ⟨rightConverges, leftConverges⟩⟩

/-- The program `(\first second. first second) (\third fourth. third) a` for four
names of bound variables. -/
def applied (first second third fourth : String) : Term :=
  .app
    (.app
      (.lam [⟨first, 1⟩, ⟨second, 1⟩]
        (.app (.var ⟨first, 1⟩) (.var ⟨second, 1⟩)))
      (.lam [⟨third, 1⟩, ⟨fourth, 1⟩] (.var ⟨third, 1⟩)))
    (.var ⟨"a", 0⟩)

/-- In two of these programs the names of the bound variables are exchanged.
Three passes are made over each of them. Their binders are independent, so that
none of the passes captures anything, although the last one replaces a variable
below a binder that stays. -/
theorem normalize_of_exchanged_names :
    let left := applied "f" "x" "y" "z"
    let right := applied "x" "f" "z" "y"
    ∃ leftParser leftAfter rightParser rightAfter,
      Parser.parse leftParser = .ok left leftAfter ∧
      Parser.parse rightParser = .ok right rightAfter ∧
      left.alphaEquivalent right = true ∧
      (left.normalize 5).steps = 3 ∧
      (∀ count, (passes count left).CapturesNothing ∧
        (passes count right).CapturesNothing) ∧
      (left.normalize 5).term.alphaEquivalent
        (right.normalize 5).term = true ∧
      (left.normalize 5).steps = (right.normalize 5).steps ∧
      (left.normalize 5).converged = (right.normalize 5).converged := by
  intro left right
  have reads : Term.parse "(\\f x. f x) (\\y z. y) a" = .ok left ∧
      Term.parse "(\\x f. x f) (\\z y. z) a" = .ok right := by
    constructor <;> cbv
  obtain ⟨leftParser, leftAfter, leftParsed⟩ := exists_parser_of_parse reads.1
  obtain ⟨rightParser, rightAfter, rightParsed⟩ :=
    exists_parser_of_parse reads.2
  have leftIndependent : left.Independent := .of_wellFormed
    (Parser.wellFormed_of_parse leftParsed) (by decide) (by decide)
  have rightIndependent : right.Independent := .of_wellFormed
    (Parser.wellFormed_of_parse rightParsed) (by decide) (by decide)
  have leftKept (count : Nat) : (passes count left).CapturesNothing :=
    (leftIndependent.passes count).capturesNothing
  have rightKept (count : Nat) : (passes count right).CapturesNothing :=
    (rightIndependent.passes count).capturesNothing
  have equivalent : left.alphaEquivalent right = true := by
    decide
  obtain ⟨results, _, _, sameRun⟩ := normalize_of_alphaEquivalent
    leftParsed rightParsed equivalent 5
    (fun count _ _ => leftKept count) (fun count _ _ => rightKept count)
  have leftResult : (left.normalize 5).term =
      .lam [⟨"z", 1⟩] (.var ⟨"a", 0⟩) := by
    decide
  have rightResult : (right.normalize 5).term =
      .lam [⟨"y", 1⟩] (.var ⟨"a", 0⟩) := by
    decide
  have noOmega (parameter : Identifier) :
      ¬ (left.normalize 5).term.Contains (omega parameter) ∧
        ¬ (right.normalize 5).term.Contains (omega parameter) := by
    simp [leftResult, rightResult, omega]
  exact ⟨leftParser, leftAfter, rightParser, rightAfter, leftParsed,
    rightParsed, equivalent, by decide,
    fun count => ⟨leftKept count, rightKept count⟩, results, sameRun noOmega⟩

/-! ## Results that depend on names -/

/-- The selection of the first of `a` and `b` with another name for the
parameter that the selecting term has beside the selected one. -/
def renamedSelection : Term :=
  let identity : Term := .lam [⟨"i", 1⟩] (.var ⟨"i", 1⟩)
  let siblings : Term :=
    .app
      (.lam [⟨"g", 1⟩, ⟨"y", 1⟩] (.app (.var ⟨"g", 1⟩) (.var ⟨"y", 1⟩)))
      (.lam [⟨"x", 1⟩, ⟨"z", 1⟩] (.var ⟨"x", 1⟩))
  .app
    (.app (.app (.app (.app identity identity) identity) siblings)
      (.var ⟨"a", 0⟩))
    (.var ⟨"b", 0⟩)

/-- How many passes are made, and whether the limit is reached, depends on the
names where a redex reproduces itself. So does the result where a pass captures
something. -/
theorem normalize_depends_on_names :
    let same : Term := omega ⟨"x", 1⟩
    let other : Term :=
      .app (selfApplication ⟨"x", 1⟩) (selfApplication ⟨"y", 1⟩)
    (Term.parse "(\\x. x x) (\\x. x x)" = .ok same ∧
      Term.parse "(\\x. x x) (\\y. y y)" = .ok other ∧
      same.alphaEquivalent other = true ∧
      (same.normalize 10).steps = 0 ∧ (other.normalize 10).steps = 1 ∧
      (same.normalize 0).converged = true ∧
      (other.normalize 0).converged = false) ∧
    Term.parse "(\\i. i) (\\i. i) (\\i. i) ((\\g y. g y) (\\x y. x)) a b" =
      .ok delayedSelection ∧
    Term.parse "(\\i. i) (\\i. i) (\\i. i) ((\\g y. g y) (\\x z. x)) a b" =
      .ok renamedSelection ∧
    delayedSelection.alphaEquivalent renamedSelection = true ∧
    (delayedSelection.normalize 10).term = .var ⟨"b", 0⟩ ∧
    (renamedSelection.normalize 10).term = .var ⟨"a", 0⟩ := by
  refine ⟨⟨?_, ?_, by decide⟩, ?_, ?_, by decide⟩
  all_goals cbv

end Term

end NumberedLambda
