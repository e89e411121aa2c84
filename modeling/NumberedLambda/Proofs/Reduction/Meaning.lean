import NumberedLambda.Proofs.Nameless.Reducts
import NumberedLambda.Proofs.Numbering.LexicalScope
import NumberedLambda.Proofs.Reduction.Normalization
import NumberedLambda.Proofs.Reduction.Pass

/-!
# Normalization and the meaning of terms

The meaning of a term is its nameless reading. As long as no pass captures
anything, what normalization computes is reached from the term that was read
by contractions with capture-avoiding substitution. The numbers of a term that
was read do not rule captures out: binders that stand side by side have equal
identifiers, and passes bring them together (`meaning_lost_by_capture`).
-/

namespace NumberedLambda

namespace Term

open Nameless (Steps)

/-- A pass over a term that is read, or over what passes have made of it,
contracts the outermost redexes of its nameless reading exactly if it captures
nothing. Where no pass captures anything, contractions lead from the term to
the result of its normalization. -/
theorem meaning_kept_iff_capturesNothing
    {parser after : Parser} {term : Term}
    (parsed : parser.parse = .ok term after) :
    (∀ count,
      (passes (count + 1) term).nameless =
          (passes count term).nameless.contractOutermost ↔
        (passes count term).CapturesNothing) ∧
    ∀ maxSteps,
      (∀ count < (term.normalize maxSteps).steps,
        (passes count term).CapturesNothing) →
      Steps term.nameless (term.normalize maxSteps).term.nameless := by
  have proper : term.ProperParameters :=
    .of_wellFormed (Parser.wellFormed_of_parse parsed)
  constructor
  · intro count
    rw [passes_succ]
    exact namelessUnder_pass_iff (proper.passes count) []
  · intro maxSteps nothing
    rw [(term.normalize_stopsAfter maxSteps).2]
    exact steps_passes proper nothing

/-- The abstraction in `\y. (\x. \y. x y) y` has a parameter with the name of
the operand, and still its contraction captures nothing. -/
theorem meaning_kept_below_equal_name :
    ∃ parser term after, Parser.parse parser = .ok term after ∧
      Term.parse "\\y. (\\x. \\y. x y) y" = .ok term ∧
      Steps term.nameless (term.normalize 5).term.nameless := by
  have read : Term.parse "\\y. (\\x. \\y. x y) y" =
      .ok (.lam [⟨"y", 1⟩]
        (.app
          (.lam [⟨"x", 1⟩] (.lam [⟨"y", 2⟩]
            (.app (.var ⟨"x", 1⟩) (.var ⟨"y", 2⟩))))
          (.var ⟨"y", 1⟩))) := by
    cbv
  obtain ⟨parser, after, parsed⟩ := exists_parser_of_parse read
  refine ⟨parser, _, after, parsed, read, ?_⟩
  obtain ⟨contractedIff, reached⟩ := meaning_kept_iff_capturesNothing parsed
  refine reached 5 ?_
  intro count before
  have onePass : count < 1 := before
  have atStart : count = 0 := Nat.lt_one_iff.mp onePass
  subst atStart
  exact (contractedIff 0).mp (by decide)

/-! ## A capture that changes the result -/

/-- The term `(\g y. g y) (\x y. x)`, which stands for the selection of the
first of two operands. Its parameters `y` stand side by side and have equal
identifiers. -/
def equalSiblings : Term :=
  .app
    (.lam [⟨"g", 1⟩, ⟨"y", 1⟩] (.app (.var ⟨"g", 1⟩) (.var ⟨"y", 1⟩)))
    (.lam [⟨"x", 1⟩, ⟨"y", 1⟩] (.var ⟨"x", 1⟩))

/-- The selection of the first of `a` and `b`. The identities in front keep
passes from handing it `a` before it has been reduced twice. -/
def delayedSelection : Term :=
  let identity : Term := .lam [⟨"i", 1⟩] (.var ⟨"i", 1⟩)
  .app
    (.app
      (.app (.app (.app identity identity) identity) equalSiblings)
      (.var ⟨"a", 0⟩))
    (.var ⟨"b", 0⟩)

/-- The nameless terms that contractions lead to from the selection: each of
the forms of the selecting term, behind what is left of the identities, and
what it makes of its operands. -/
def delayedSelectionReducts : List Nameless :=
  let identity : Nameless := .lam (.bound 0)
  let first : Nameless := .lam (.lam (.bound 1))
  let identities : List Nameless :=
    [.app (.app identity identity) identity, .app identity identity,
      identity]
  let selecting : List Nameless :=
    [equalSiblings.nameless, .lam (.app first (.bound 0)), first]
  let delayed : List Nameless :=
    identities.flatMap fun waiting => selecting.map (.app waiting ·)
  (delayed ++ selecting).map
      (fun operator =>
        .app (.app operator (.free ⟨"a", 0⟩)) (.free ⟨"b", 0⟩)) ++
    [.app (.lam (.free ⟨"a", 0⟩)) (.free ⟨"b", 0⟩), .free ⟨"a", 0⟩]

/-- The second pass captures the outer `y` of `(\g y. g y) (\x y. x)`, so that
the second operand is selected. No contractions lead there. -/
theorem meaning_lost_by_capture :
    Term.parse "(\\i. i) (\\i. i) (\\i. i) ((\\g y. g y) (\\x y. x)) a b" =
        .ok delayedSelection ∧
      (delayedSelection.normalize 5).term = .var ⟨"b", 0⟩ ∧
      ¬ Steps delayedSelection.nameless
        (delayedSelection.normalize 5).term.nameless := by
  have result : (delayedSelection.normalize 5).term = .var ⟨"b", 0⟩ := by
    decide
  have closed : ∀ term ∈ delayedSelectionReducts,
      ∀ reduct ∈ term.reducts, reduct ∈ delayedSelectionReducts := by
    decide
  refine ⟨by cbv, result, ?_⟩
  intro steps
  have reachable := Nameless.mem_of_steps closed steps (List.mem_cons_self ..)
  rw [result] at reachable
  exact absurd reachable (by decide)

end Term

end NumberedLambda
