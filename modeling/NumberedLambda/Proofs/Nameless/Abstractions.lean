import NumberedLambda.Nameless

/-!
# Nameless terms below several abstractions

The operations on nameless terms go through any number of abstractions in one
go: what changes is the cutoff or the depth. Raising indices twice is raising
them once, if the second cutoff lies among the indices that the first raising
has left unused.
-/

namespace NumberedLambda

namespace Nameless

theorem raise_raise {term : Nameless} {first second cutoff later : Nat}
    (atLeast : cutoff ≤ later) (atMost : later ≤ cutoff + first) :
    (term.raise first cutoff).raise second later =
      term.raise (first + second) cutoff := by
  induction term generalizing cutoff later with
  | bound index =>
      by_cases inside : index < cutoff
      · have stillInside : index < later := Nat.lt_of_lt_of_le inside atLeast
        simp only [raise, if_pos inside, if_pos stillInside]
      · have outside : ¬ index + first < later := by omega
        simp only [raise, if_neg inside, if_neg outside, Nat.add_assoc]
  | free identifier =>
      rfl
  | app operator operand operatorHypothesis operandHypothesis =>
      simp only [raise, operatorHypothesis atLeast atMost,
        operandHypothesis atLeast atMost]
  | lam body inductionHypothesis =>
      have stillAtMost : later + 1 ≤ cutoff + 1 + first := by
        omega
      have bodyRaised :=
        inductionHypothesis (Nat.succ_le_succ atLeast) stillAtMost
      simp only [raise, bodyRaised]

theorem raise_abstractions
    (count amount cutoff : Nat) (body : Nameless) :
    (abstractions count body).raise amount cutoff =
      abstractions count (body.raise amount (count + cutoff)) := by
  induction count generalizing cutoff with
  | zero =>
      rw [Nat.zero_add]
      rfl
  | succ count inductionHypothesis =>
      rw [abstractions, raise, inductionHypothesis, abstractions,
        Nat.add_right_comm, Nat.add_assoc]

theorem substitute_abstractions
    (count depth : Nat) (body value : Nameless) :
    (abstractions count body).substitute depth value =
      abstractions count (body.substitute (count + depth) value) := by
  induction count generalizing depth with
  | zero =>
      rw [Nat.zero_add]
      rfl
  | succ count inductionHypothesis =>
      rw [abstractions, substitute, inductionHypothesis, abstractions,
        Nat.add_right_comm, Nat.add_assoc]

theorem substituteFree_abstractions
    (count depth : Nat) (body : Nameless) (target : Identifier)
    (value : Nameless) :
    (abstractions count body).substituteFree depth target value =
      abstractions count
        (body.substituteFree (count + depth) target value) := by
  induction count generalizing depth with
  | zero =>
      rw [Nat.zero_add]
      rfl
  | succ count inductionHypothesis =>
      rw [abstractions, substituteFree, inductionHypothesis, abstractions,
        Nat.add_right_comm, Nat.add_assoc]

theorem contractOutermost_abstractions (count : Nat) (body : Nameless) :
    (abstractions count body).contractOutermost =
      abstractions count body.contractOutermost := by
  induction count with
  | zero =>
      rfl
  | succ count inductionHypothesis =>
      rw [abstractions, contractOutermost, inductionHypothesis, abstractions]

theorem abstractions_inj {count : Nat} {first second : Nameless} :
    abstractions count first = abstractions count second ↔
      first = second := by
  induction count with
  | zero =>
      rfl
  | succ count inductionHypothesis =>
      rw [abstractions, abstractions, Nameless.lam.injEq,
        inductionHypothesis]

theorem contractOutermost_app {operator : Nameless} (operand : Nameless)
    (noRedex : ∀ body, operator ≠ .lam body) :
    (app operator operand).contractOutermost =
      app operator.contractOutermost operand.contractOutermost := by
  cases operator with
  | bound index =>
      rfl
  | free identifier =>
      rfl
  | app first second =>
      rfl
  | lam body =>
      exact absurd rfl (noRedex body)

end Nameless

end NumberedLambda
