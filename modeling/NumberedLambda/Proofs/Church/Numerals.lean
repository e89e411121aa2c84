import NumberedLambda.Church
import NumberedLambda.Proofs.RoundTrip.Phrases

/-!
# Numerals and their texts

The terms that the texts of numerals, of addition and of sums are read as. A
number applies its first parameter, the function, over and over, at last to its
second one, the argument. Functions and arguments have the same identifiers in
all of these terms.
-/

namespace NumberedLambda

namespace Church

open Grammar (Denotes)
open Scanner (IsName)

/-- The parameter that a number applies. -/
def function : Identifier :=
  ⟨"f", 1⟩

/-- The parameter that a number applies it to. -/
def argument : Identifier :=
  ⟨"x", 1⟩

/-- The first parameter of addition. -/
def firstNumber : Identifier :=
  ⟨"m", 1⟩

/-- The second parameter of addition. -/
def secondNumber : Identifier :=
  ⟨"n", 1⟩

/-- The function applied to an operand a number of times. -/
def iterate (operand : Term) : Nat → Term
  | 0 => operand
  | count + 1 => .app (.var function) (iterate operand count)

/-- The term of a number. -/
def numeral (number : Nat) : Term :=
  .lam [function, argument] (iterate (.var argument) number)

/-- The term of addition. -/
def addition : Term :=
  .lam [firstNumber, secondNumber, function, argument]
    (.app (.app (.var firstNumber) (.var function))
      (.app (.app (.var secondNumber) (.var function)) (.var argument)))

/-- The term of the sum of two numbers, which is yet to be evaluated. -/
def sum (first second : Nat) : Term :=
  .app (.app addition (numeral first)) (numeral second)

/-! ## Numbers of the identifiers -/

theorem numberedUnder_iterate {names : List String} {operand : Term}
    (bound : names.count function.name = 1)
    (numbered : operand.NumberedUnder names) (count : Nat) :
    (iterate operand count).NumberedUnder names := by
  induction count with
  | zero =>
      exact numbered
  | succ count inductionHypothesis =>
      exact ⟨bound.symm, inductionHypothesis⟩

theorem numbered_numeral (number : Nat) : (numeral number).Numbered := by
  refine ⟨by decide, numberedUnder_iterate (by decide) ?_ number⟩
  exact (by decide : argument.number = ["x", "f"].count argument.name)

theorem numbered_addition : addition.Numbered := by
  decide

theorem numbered_sum (first second : Nat) : (sum first second).Numbered :=
  ⟨⟨numbered_addition, numbered_numeral first⟩, numbered_numeral second⟩

/-! ## Texts -/

/-- The names of the parameters of addition, which include those of a
number. -/
def names : List String :=
  ["m", "n", "f", "x"]

theorem isName_of_mem {name : String} (member : name ∈ names) :
    IsName name := by
  simp only [names, List.mem_cons, List.not_mem_nil, or_false] at member
  rcases member with rfl | rfl | rfl | rfl <;>
    exact .of_character rfl (by decide)

theorem denotes_name {name : String} (member : name ∈ names) :
    Denotes .atom name (.var name) :=
  .name (isName_of_mem member)

theorem denotes_function : Denotes .atoms "f" (.var "f") :=
  (denotes_name (by decide)).oneAtom

theorem denotes_argument : Denotes .atom "x" (.var "x") :=
  denotes_name (by decide)

theorem denotes_operandText (count : Nat) :
    Denotes .atom (operandText count)
      (iterate (.var argument) count).skeleton := by
  induction count with
  | zero =>
      exact denotes_argument
  | succ count inductionHypothesis =>
      have applied := denotes_function.moreAtoms inductionHypothesis
      have shape : operandText (count + 1) =
          "(" ++ ("f" ++ " " ++ operandText count) ++ ")" := by
        apply String.toList_inj.mp
        simp [operandText]
      rw [shape]
      exact applied.application.parenthesized

theorem denotes_bodyText (count : Nat) :
    Denotes .expression (bodyText count)
      (iterate (.var argument) count).skeleton := by
  cases count with
  | zero =>
      exact denotes_argument.oneAtom.application
  | succ count =>
      exact (denotes_function.moreAtoms
        (denotes_operandText count)).application

theorem denotes_numeralText (number : Nat) :
    Denotes .atom (numeralText number) (numeral number).skeleton := by
  have shape : numeralText number =
      "(" ++ ("\\" ++ " ".intercalate ["f", "x"] ++ ". " ++
        bodyText number) ++ ")" := by
    apply String.toList_inj.mp
    simp [numeralText]
  have allNames : ∀ name ∈ ["f", "x"], IsName name := fun _ member =>
    isName_of_mem (List.mem_cons_of_mem _ (List.mem_cons_of_mem _ member))
  rw [shape]
  exact (Denotes.abstraction (by decide) (by decide) allNames
    (denotes_bodyText number)).parenthesized

theorem denotes_additionText :
    Denotes .atom additionText addition.skeleton := by
  have firstApplied : Denotes .atoms ("m" ++ " " ++ "f")
      (.app (.var "m") (.var "f")) :=
    (denotes_name (by decide)).oneAtom.moreAtoms (denotes_name (by decide))
  have secondApplied : Denotes .atoms ("n" ++ " " ++ "f")
      (.app (.var "n") (.var "f")) :=
    (denotes_name (by decide)).oneAtom.moreAtoms (denotes_name (by decide))
  have operand := (secondApplied.moreAtoms denotes_argument).application
  have body := (firstApplied.moreAtoms operand.parenthesized).application
  have shape : additionText =
      "(" ++ ("\\" ++ " ".intercalate names ++ ". " ++
        ("m" ++ " " ++ "f" ++ " " ++
          ("(" ++ ("n" ++ " " ++ "f" ++ " " ++ "x") ++ ")"))) ++ ")" := by
    apply String.toList_inj.mp
    simp [additionText, names]
  rw [shape]
  exact (Denotes.abstraction (by decide) (by decide)
    (fun _ => isName_of_mem) body).parenthesized

theorem denotes_sumText (first second : Nat) :
    Denotes .expression (sumText first second)
      (sum first second).skeleton :=
  ((denotes_additionText.oneAtom.moreAtoms
    (denotes_numeralText first)).moreAtoms
      (denotes_numeralText second)).application

/-! ## Terms that are read -/

theorem parse_sumText (first second : Nat) :
    Term.parse (sumText first second) = .ok (sum first second) :=
  Term.parse_eq_ok (denotes_sumText first second) (numbered_sum first second)

theorem parse_numeralText (number : Nat) :
    Term.parse (numeralText number) = .ok (numeral number) :=
  Term.parse_eq_ok (denotes_numeralText number).oneAtom.application
    (numbered_numeral number)

end Church

end NumberedLambda
