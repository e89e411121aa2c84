import Mathlib.Order.Bounds.Basic
import NumberedLambda.Proofs.Reduction.Normalization

/-!
# Budgets of passes

Passes over a term may at some time change nothing any more. Normalization
stops at the first such time, or when its budget is used up, whichever is
earlier; this is all that its result depends on. Hence a budget can be spent
in two parts, with the second part going on from where the first one ended.
-/

namespace NumberedLambda

namespace Term

/-- The numbers of passes after which one more pass changes nothing. -/
def arrivals (term : Term) : Set Nat :=
  {count | (passes count term).pass = passes count term}

/-- A term that a pass leaves as it is stays so. -/
theorem passes_eq_self {term : Term} (arrived : term.pass = term)
    (count : Nat) : passes count term = term := by
  induction count with
  | zero =>
      rfl
  | succ count inductionHypothesis =>
      rw [passes_succ, inductionHypothesis, arrived]

/-- A term that has arrived stays where it is. -/
theorem passes_eq_of_mem_arrivals {term : Term} {first later : Nat}
    (arrived : first ∈ term.arrivals) (after : first ≤ later) :
    passes later term = passes first term := by
  obtain ⟨more, rfl⟩ := Nat.exists_eq_add_of_le after
  rw [passes_add, passes_eq_self arrived]

/-! ## Where normalization stops -/

namespace StopsAfter

variable {term : Term} {maxSteps : Nat}

/-- Normalization stops at the first arrival or at the end of its budget. -/
theorem of_isLeast {first : Nat} (least : IsLeast term.arrivals first) :
    term.StopsAfter maxSteps (min maxSteps first) where
  count_le := Nat.min_le_left maxSteps first
  changes := by
    intro earlier before arrived
    have notBefore : first ≤ earlier := least.2 arrived
    omega
  arrived := by
    intro withinBudget
    have atFirst : min maxSteps first = first := by
      omega
    rw [atFirst]
    exact least.1

/-- The whole budget is used up by a term that never arrives. -/
theorem of_never (never : term.arrivals = ∅) :
    term.StopsAfter maxSteps maxSteps where
  count_le := Nat.le_refl maxSteps
  changes := by
    intro earlier _ arrived
    have member : earlier ∈ term.arrivals := arrived
    rw [never] at member
    exact member
  arrived := fun impossible => absurd impossible (Nat.lt_irrefl maxSteps)

/-- If the last of several passes still changes the term and the next one does
not, then all of them change it. -/
theorem of_last_change {count : Nat}
    (changed : passes (count + 1) term ≠ passes count term)
    (arrived : count + 1 ∈ term.arrivals) (allowed : count + 1 ≤ maxSteps) :
    term.StopsAfter maxSteps (count + 1) where
  count_le := allowed
  changes := by
    intro earlier before arrivedEarlier
    apply changed
    rw [passes_eq_of_mem_arrivals arrivedEarlier (Nat.le_of_lt before),
      passes_eq_of_mem_arrivals arrivedEarlier (Nat.le_of_lt_succ before)]
  arrived := fun _ => arrived

/-- A second budget is spent from where the first one ended. -/
theorem add {firstBudget secondBudget first second : Nat}
    (stopsFirst : term.StopsAfter firstBudget first)
    (stopsSecond : (passes first term).StopsAfter secondBudget second) :
    term.StopsAfter (firstBudget + secondBudget) (first + second) where
  count_le := Nat.add_le_add stopsFirst.count_le stopsSecond.count_le
  changes := by
    intro earlier before
    by_cases inFirst : earlier < first
    · exact stopsFirst.changes earlier inFirst
    · obtain ⟨more, rfl⟩ := Nat.exists_eq_add_of_le (Nat.le_of_not_lt inFirst)
      rw [passes_add]
      exact stopsSecond.changes more (Nat.lt_of_add_lt_add_left before)
  arrived := by
    intro withinBudgets
    rw [passes_add]
    by_cases withinSecond : second < secondBudget
    · exact stopsSecond.arrived withinSecond
    · -- The second budget is used up, so the first one was not.
      have withinFirst : first < firstBudget := by
        have bound := stopsSecond.count_le
        omega
      have settled := stopsFirst.arrived withinFirst
      rw [passes_eq_self settled, settled]

/-- The result of normalization, from the number of its passes. -/
theorem normalize_eq {count : Nat} (stops : term.StopsAfter maxSteps count) :
    term.normalize maxSteps =
      { term := passes count term
        steps := count
        converged := decide
          ((passes count term).pass = passes count term) } := by
  obtain ⟨other, stopsOther, outcome⟩ :=
    normalizeFrom_stopsAfter .silent 0 maxSteps term
  rw [stops.unique stopsOther, normalize, normalizeLogged, outcome,
    Nat.zero_add]

end StopsAfter

/-- Normalization makes as many passes as its budget allows, but none beyond
the first arrival; its term is the term after these passes, and it has
converged if one more pass changes nothing. Hence normalizing with the sum of
two budgets is normalizing with the first one and then going on with the second
one. -/
theorem normalize_stops_at_first_arrival (term : Term) :
    (∀ maxSteps : Nat,
      (∀ first, IsLeast term.arrivals first →
        (term.normalize maxSteps).steps = min maxSteps first) ∧
      (term.arrivals = ∅ → (term.normalize maxSteps).steps = maxSteps) ∧
      (term.normalize maxSteps).term =
        passes (term.normalize maxSteps).steps term ∧
      ((term.normalize maxSteps).converged = true ↔
        (term.normalize maxSteps).term.pass =
          (term.normalize maxSteps).term)) ∧
    ∀ firstBudget secondBudget : Nat,
      term.normalize (firstBudget + secondBudget) =
        { term := ((term.normalize firstBudget).term.normalize
            secondBudget).term
          steps := (term.normalize firstBudget).steps +
            ((term.normalize firstBudget).term.normalize secondBudget).steps
          converged := ((term.normalize firstBudget).term.normalize
            secondBudget).converged } := by
  constructor
  · intro maxSteps
    obtain ⟨stops, result⟩ := term.normalize_stopsAfter maxSteps
    refine ⟨?_, ?_, result, ?_⟩
    · intro first least
      exact stops.unique (.of_isLeast least)
    · intro never
      exact stops.unique (.of_never never)
    · rw [converged_normalize, decide_eq_true_iff]
  · intro firstBudget secondBudget
    obtain ⟨stopsFirst, resultFirst⟩ := term.normalize_stopsAfter firstBudget
    obtain ⟨stopsSecond, resultSecond⟩ :=
      (term.normalize firstBudget).term.normalize_stopsAfter secondBudget
    rw [resultFirst] at stopsSecond
    rw [(stopsFirst.add stopsSecond).normalize_eq, converged_normalize,
      passes_add, ← resultFirst, ← resultSecond]

end Term

end NumberedLambda
