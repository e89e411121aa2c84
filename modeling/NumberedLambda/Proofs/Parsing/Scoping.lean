import NumberedLambda.Proofs.Parsing.Evaluation
import NumberedLambda.ScopeTree.Inheritance
import NumberedLambda.Term.Numbering

/-!
# What the rules do to the scopes

A rule may open scopes and declare names in them, but it never changes what
the scopes resolve that were open before. The only exception is the rule for
abstractions, which declares the parameters in the scope it is given; that
scope has just been opened for it, and the scopes before it are unaffected.

So a scope resolves a name to the number of binders of that name around the
current place, before a rule and after it, and the term that the rule answers
with is numbered by these binders.
-/

namespace NumberedLambda

namespace ScopeTree

/-! ## Trees that agree on the scopes below a bound -/

/-- A tree that has grown, without a change of what the scopes below a bound
resolve. -/
structure Extends (bound : Nat) (before after : ScopeTree) : Prop where
  size_le : before.size ≤ after.size
  numberOf_eq : ∀ position < bound, ∀ name,
    after.numberOf position name = before.numberOf position name

namespace Extends

theorem refl (bound : Nat) (tree : ScopeTree) : Extends bound tree tree where
  size_le := Nat.le_refl _
  numberOf_eq := fun _ _ _ => rfl

theorem trans {bound : Nat} {before between after : ScopeTree}
    (first : Extends bound before between)
    (last : Extends bound between after) : Extends bound before after where
  size_le := Nat.le_trans first.size_le last.size_le
  numberOf_eq := fun position inside name =>
    (last.numberOf_eq position inside name).trans
      (first.numberOf_eq position inside name)

theorem mono {bound smaller : Nat} {before after : ScopeTree}
    (extends_ : Extends bound before after) (le : smaller ≤ bound) :
    Extends smaller before after where
  size_le := extends_.size_le
  numberOf_eq := fun position inside =>
    extends_.numberOf_eq position (Nat.lt_of_lt_of_le inside le)

end Extends

/-- After a change that leaves some scopes alone, another one that leaves all
scopes alone. -/
theorem Extends.followed
    {bound : Nat} {before between after : ScopeTree}
    (first : Extends bound before between)
    (last : Extends between.size between after)
    (inside : bound ≤ before.size) : Extends bound before after :=
  first.trans (last.mono (Nat.le_trans inside first.size_le))

theorem extends_openChild (tree : ScopeTree) (parent : Nat) :
    Extends tree.size tree (tree.openChild parent).2 where
  size_le := by
    rw [size_openChild]
    exact Nat.le_succ _
  numberOf_eq := fun _ inside name =>
    numberOf_openChild_of_lt parent name inside

/-- A scope never follows a scope after it, so it does not feel what is
recorded there. -/
theorem numberOf_record_of_lt
    (tree : ScopeTree) {position other : Nat} (name : String)
    (number : Nat) (before : other < position) :
    (tree.record position name number).numberOf other name =
      tree.numberOf other name := by
  refine numberOf_record_of_not_inherits number fun inherits => ?_
  exact Nat.not_le_of_lt before (le_of_inherits inherits)

theorem extends_declare (tree : ScopeTree) (scope : Nat) (name : String) :
    Extends scope tree (tree.declare scope name).2 where
  size_le := Nat.le_of_eq (size_declare tree scope name).symm
  numberOf_eq := by
    intro position inside resolved
    by_cases same : resolved = name
    · subst same
      exact numberOf_record_of_lt tree _ _ inside
    · exact numberOf_record_of_ne scope position _ same

/-- From a scope every name resolves to the number of binders of that name
among those around the current place. -/
def Resolves (tree : ScopeTree) (scope : Nat) (names : List String) :
    Prop :=
  ∀ name, tree.numberOf scope name = names.count name

theorem resolves_root (scope : Nat) : root.Resolves scope [] := by
  intro name
  rw [numberOf_root, List.count_nil]

theorem Resolves.of_extends
    {bound scope : Nat} {before after : ScopeTree} {names : List String}
    (resolves : before.Resolves scope names)
    (extends_ : Extends bound before after) (inside : scope < bound) :
    after.Resolves scope names := by
  intro name
  rw [extends_.numberOf_eq scope inside, resolves]

theorem Resolves.openChild
    {parent : Nat} {tree : ScopeTree} {names : List String}
    (resolves : tree.Resolves parent names) :
    (tree.openChild parent).2.Resolves (tree.openChild parent).1 names := by
  intro name
  rw [numberOf_openChild_self, resolves]

/-- A declaration is one more binder of its name. -/
theorem Resolves.declare
    {scope : Nat} {tree : ScopeTree} {names : List String}
    (resolves : tree.Resolves scope names) (inside : scope < tree.size)
    (name : String) :
    (tree.declare scope name).2.Resolves scope (name :: names) := by
  intro resolved
  by_cases same : resolved = name
  · subst same
    rw [ScopeTree.declare, numberOf_record_self resolved _ inside,
      List.count_cons_self, resolves]
  · rw [ScopeTree.declare, numberOf_record_of_ne scope scope _ same,
      List.count_cons_of_ne (Ne.symm same), resolves]

end ScopeTree

open ScopeTree (Extends Resolves)

/-! ## The scopes after an answer -/

namespace Answer

variable {Value Result : Type}

@[simp]
theorem parser_insist (answer : Answer Value)
    (complaint : Token → ParseError) :
    (answer.insist complaint).parser = answer.parser := by
  cases answer with
  | ok value left =>
      rfl
  | error error left =>
      cases error <;> rfl

theorem extends_andThen
    {bound : Nat} {tree : ScopeTree} {answer : Answer Value}
    {next : Value → Parser → Answer Result}
    (first : Extends bound tree answer.parser.scopes)
    (later : ∀ value left, answer = .ok value left →
      Extends bound left.scopes (next value left).parser.scopes) :
    Extends bound tree (answer.andThen next).parser.scopes := by
  cases answer with
  | ok value left =>
      exact first.trans (later value left rfl)
  | error error left =>
      exact first

end Answer

namespace Parser

theorem openScope_lt (parser : Parser) (scope : Nat) :
    (parser.openScope scope).1 < (parser.openScope scope).2.scopes.size := by
  simp [openScope, ScopeTree.openChild, ScopeTree.size]

theorem scopes_advance (parser : Parser) :
    parser.advance.parser.scopes = parser.scopes := by
  unfold advance
  split <;> rfl

theorem scopes_of_advance {parser after : Parser}
    (read : parser.advance = .ok () after) :
    after.scopes = parser.scopes := by
  have unchanged := parser.scopes_advance
  rw [read] at unchanged
  exact unchanged

theorem extends_advance (bound : Nat) (parser : Parser) :
    Extends bound parser.scopes parser.advance.parser.scopes := by
  rw [scopes_advance]
  exact .refl bound parser.scopes

theorem extends_closing (bound : Nat) (inner : Term) (parser : Parser) :
    Extends bound parser.scopes (parser.closing inner).parser.scopes := by
  unfold closing
  split
  · exact Answer.extends_andThen (parser.extends_advance bound)
      fun _ left _ => .refl bound left.scopes
  · exact .refl bound parser.scopes

theorem extends_dotAfter
    (bound : Nat) (declared : List Identifier) (parser : Parser) :
    Extends bound parser.scopes (parser.dotAfter declared).parser.scopes := by
  unfold dotAfter
  split
  · exact .refl bound parser.scopes
  · split
    · exact Answer.extends_andThen (parser.extends_advance bound)
        fun _ left _ => .refl bound left.scopes
    · exact .refl bound parser.scopes

theorem extends_parameters
    (scope : Nat) (declared : List Identifier) (parser : Parser) :
    Extends scope parser.scopes
      (parser.parameters scope declared).parser.scopes := by
  fun_induction parameters scope declared parser with
  | case1 declared parser name atName duplicate =>
      exact .refl scope parser.scopes
  | case2 declared parser name atName fresh after read
      inductionHypothesis =>
      have declares := parser.scopes.extends_declare scope name
      rw [scopes_of_advance read] at inductionHypothesis
      exact declares.trans inductionHypothesis
  | case3 declared parser name atName fresh error left read =>
      have declares := parser.scopes.extends_declare scope name
      have unchanged := (parser.declare scope name).2.scopes_advance
      rw [read] at unchanged
      exact unchanged ▸ declares
  | case4 declared parser others =>
      exact .refl scope parser.scopes

theorem extends_header (scope : Nat) (parser : Parser) :
    Extends scope parser.scopes (parser.header scope).parser.scopes := by
  unfold header
  split
  · refine Answer.extends_andThen (parser.extends_advance scope) ?_
    intro value after _
    exact Answer.extends_andThen (extends_parameters scope [] after)
      fun declared left _ => left.extends_dotAfter scope declared
  · exact .refl scope parser.scopes

end Parser

/-- The bound of the scopes that a task leaves as they are. An abstraction
declares its parameters in the scope it is given. -/
def Task.bound : Task → Nat → ScopeTree → Nat
  | .abstraction, scope, _ => scope
  | _, _, tree => tree.size

/-- No task changes what earlier scopes resolve. -/
theorem extends_of_evaluates
    {task : Task} {scope : Nat} {parser : Parser} {answer : Answer Term}
    (evaluated : Evaluates task scope parser answer)
    (inside : scope < parser.scopes.size) :
    Extends (task.bound scope parser.scopes) parser.scopes
      answer.parser.scopes := by
  induction evaluated with
  | @expressionAbstraction scope parser answer opening evaluated
      inductionHypothesis =>
      have opened := parser.scopes.extends_openChild scope
      exact opened.trans (inductionHypothesis (parser.openScope_lt scope))
  | @expressionApplication scope parser answer noAbstraction evaluated
      inductionHypothesis =>
      have opened := parser.scopes.extends_openChild scope
      exact opened.followed
        (inductionHypothesis (parser.openScope_lt scope)) (Nat.le_refl _)
  | @noAbstraction scope parser noAbstraction =>
      exact .refl _ _
  | @headerFails scope parser left error opening header =>
      have declares := parser.extends_header scope
      rw [header] at declares
      exact declares
  | @body scope parser start declared answer opening header evaluated
      inductionHypothesis =>
      have declares := parser.extends_header scope
      rw [header] at declares
      have read := declares.followed
        (inductionHypothesis (Nat.lt_of_lt_of_le inside declares.size_le))
        (Nat.le_of_lt inside)
      refine Answer.extends_andThen ?_ fun body left _ => .refl _ _
      rw [Answer.parser_insist]
      exact read
  | operatorFails evaluated inductionHypothesis =>
      exact inductionHypothesis inside
  | operator atom operands atomHypothesis operandsHypothesis =>
      have first := atomHypothesis inside
      exact first.followed
        (operandsHypothesis (Nat.lt_of_lt_of_le inside first.size_le))
        (Nat.le_refl _)
  | @noOperand scope parser operator absent =>
      exact parser.scopes.extends_openChild scope
  | operandFails begins evaluated inductionHypothesis =>
      exact inductionHypothesis inside
  | moreOperands begins operand operands operandHypothesis
      operandsHypothesis =>
      have first := operandHypothesis inside
      exact first.followed
        (operandsHypothesis (Nat.lt_of_lt_of_le inside first.size_le))
        (Nat.le_refl _)
  | operandAtom begins evaluated inductionHypothesis =>
      exact inductionHypothesis inside
  | @operandAbstraction scope parser answer absent evaluated
      inductionHypothesis =>
      have opened := parser.scopes.extends_openChild scope
      exact opened.trans (inductionHypothesis (parser.openScope_lt scope))
  | @noAtom scope parser absent =>
      exact .refl _ _
  | @name scope parser name atName =>
      exact Answer.extends_andThen (parser.extends_advance _)
        fun _ left _ => .refl _ left.scopes
  | @openingFails scope parser left error opening read =>
      have unchanged := parser.extends_advance parser.scopes.size
      rw [read] at unchanged
      exact unchanged
  | @parenthesized scope parser start answer opening read evaluated
      inductionHypothesis =>
      have unchanged := Parser.scopes_of_advance read
      rw [← unchanged] at inside ⊢
      refine Answer.extends_andThen ?_
        fun inner left _ => left.extends_closing _ inner
      rw [Answer.parser_insist]
      exact inductionHypothesis inside

end NumberedLambda
