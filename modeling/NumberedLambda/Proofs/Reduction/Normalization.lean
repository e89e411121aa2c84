import NumberedLambda.Normalization

/-!
# What normalization computes

Normalization stops at the first term that a pass leaves as it is, or after as
many passes as are allowed. The number of steps that it reports is the number
of these passes, and its last term is the term after them.
-/

namespace NumberedLambda

namespace Term

/-- The number of passes that normalization makes: all passes before the last
one change the term, and fewer than allowed only if the term has stopped
changing. -/
structure StopsAfter (term : Term) (maxSteps count : Nat) : Prop where
  count_le : count ≤ maxSteps
  changes : ∀ earlier < count,
    (passes earlier term).pass ≠ passes earlier term
  arrived : count < maxSteps → (passes count term).pass = passes count term

/-- There are no passes beyond the first one that changes nothing. -/
theorem StopsAfter.unique {term : Term} {maxSteps first second : Nat}
    (stopsFirst : term.StopsAfter maxSteps first)
    (stopsSecond : term.StopsAfter maxSteps second) : first = second := by
  rcases Nat.lt_trichotomy first second with before | same | after
  · have allowed := Nat.lt_of_lt_of_le before stopsSecond.count_le
    exact absurd (stopsFirst.arrived allowed) (stopsSecond.changes _ before)
  · exact same
  · have allowed := Nat.lt_of_lt_of_le after stopsFirst.count_le
    exact absurd (stopsSecond.arrived allowed) (stopsFirst.changes _ after)

theorem normalizeFrom_stopsAfter
    (log : Log) (steps budget : Nat) (current : Term) :
    ∃ count, current.StopsAfter budget count ∧
      (normalizeFrom log steps budget current).1 =
        { term := passes count current
          steps := steps + count
          converged := decide
            ((passes count current).pass = passes count current) } := by
  induction budget generalizing log steps current with
  | zero =>
      refine ⟨0, ⟨Nat.le_refl 0, nofun, nofun⟩, ?_⟩
      by_cases arrived : current.pass = current
      · simp [normalizeFrom, arrived]
      · simp [normalizeFrom, arrived]
  | succ budget inductionHypothesis =>
      by_cases arrived : current.pass = current
      · refine ⟨0, ⟨Nat.zero_le _, nofun, fun _ => arrived⟩, ?_⟩
        simp [normalizeFrom, arrived]
      · obtain ⟨count, stops, outcome⟩ := inductionHypothesis
          (log.add (.reduced (steps + 1) current.pass)) (steps + 1)
          current.pass
        refine ⟨count + 1, ?_, ?_⟩
        · constructor
          · exact Nat.succ_le_succ stops.count_le
          · intro earlier before
            cases earlier with
            | zero =>
                exact arrived
            | succ earlier =>
                exact stops.changes earlier (Nat.lt_of_succ_lt_succ before)
          · intro allowed
            exact stops.arrived (Nat.lt_of_succ_lt_succ allowed)
        · rw [normalizeFrom, if_neg arrived, outcome, Nat.add_assoc,
            Nat.add_comm 1 count]
          rfl

/-- Normalization makes passes until the term stops changing or its budget is
used up. -/
theorem normalize_stopsAfter (term : Term) (maxSteps : Nat) :
    term.StopsAfter maxSteps (term.normalize maxSteps).steps ∧
      (term.normalize maxSteps).term =
        passes (term.normalize maxSteps).steps term := by
  obtain ⟨count, stops, outcome⟩ :=
    normalizeFrom_stopsAfter .silent 0 maxSteps term
  have same : term.normalize maxSteps = _ := outcome
  rw [same]
  rw [Nat.zero_add]
  exact ⟨stops, rfl⟩

/-- Normalization reports whether a further pass would leave its result as it
is. -/
theorem converged_normalize (term : Term) (maxSteps : Nat) :
    (term.normalize maxSteps).converged =
      decide ((term.normalize maxSteps).term.pass =
        (term.normalize maxSteps).term) := by
  obtain ⟨count, _, outcome⟩ :=
    normalizeFrom_stopsAfter .silent 0 maxSteps term
  have same : term.normalize maxSteps = _ := outcome
  rw [same]

end Term

end NumberedLambda
