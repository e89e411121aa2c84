import Mathlib.Data.List.Nodup
import Mathlib.Data.List.Perm.Basic
import NumberedLambda.Term.Position

/-!
# A pass as contractions one after the other

A pass goes through a term once and contracts every outermost redex that it
meets. The same comes about if the outermost redexes are contracted one at a
time, in any order: none of them lies on the way to another one, contractions
at such positions commute, and each leaves what stands at the other positions
as it was. What becomes a redex by a contraction is not among them.
-/

namespace NumberedLambda

/-- Two positions that part at some turn, so that none of them lies on the way
to the other. -/
inductive Position.Apart : Position → Position → Prop where
  | parting {turn other : Turn} (first second : Position) :
      turn ≠ other → Apart (turn :: first) (other :: second)
  | together {first second : Position} (turn : Turn) :
      Apart first second → Apart (turn :: first) (turn :: second)

theorem Position.apart_of_not_isPrefix {first second : Position}
    (notBefore : ¬ first <+: second) (notBehind : ¬ second <+: first) :
    first.Apart second := by
  induction first generalizing second with
  | nil =>
      exact absurd List.nil_prefix notBefore
  | cons turn first inductionHypothesis =>
      cases second with
      | nil =>
          exact absurd List.nil_prefix notBehind
      | cons other second =>
          by_cases same : turn = other
          · subst same
            apply Apart.together
            apply inductionHypothesis
            · intro before
              exact notBefore (List.cons_prefix_cons.mpr ⟨rfl, before⟩)
            · intro behind
              exact notBehind (List.cons_prefix_cons.mpr ⟨rfl, behind⟩)
          · exact .parting first second same

namespace Term

/-! ## Contraction at one position -/

section Contraction

variable {term : Term} {position other : Position}

/-- Contractions at positions that are apart commute, whatever stands there. -/
theorem contractAt_comm (apart : position.Apart other) :
    (term.contractAt position).contractAt other =
      (term.contractAt other).contractAt position := by
  induction apart generalizing term with
  | @parting turn otherTurn first second different =>
      cases term <;> cases turn <;> cases otherTurn <;>
        first | exact absurd rfl different | simp [contractAt]
  | together turn apart inductionHypothesis =>
      cases term <;> cases turn <;>
        simp only [contractAt, inductionHypothesis]

/-- A contraction leaves what stands at a position apart from it. -/
theorem part?_contractAt (apart : position.Apart other) :
    (term.contractAt position).part? other = term.part? other := by
  induction apart generalizing term with
  | @parting turn otherTurn first second different =>
      cases term <;> cases turn <;> cases otherTurn <;>
        first | exact absurd rfl different | simp [contractAt, part?]
  | together turn apart inductionHypothesis =>
      cases term <;> cases turn <;>
        simp only [contractAt, part?, inductionHypothesis]

/-- Where a redex stands, its contraction puts what the redex contracts to. -/
theorem part?_contractAt_self {parameters : List Identifier}
    {body operand : Term}
    (found : term.part? position =
      some (.app (.lam parameters body) operand)) :
    (term.contractAt position).part? position =
      some (contract parameters body operand) := by
  induction position generalizing term with
  | nil =>
      rw [part?, Option.some.injEq] at found
      rw [found, contractAt, part?]
  | cons turn position inductionHypothesis =>
      cases term <;> cases turn <;>
        simp only [part?, contractAt, reduceCtorEq] at found ⊢ <;>
        exact inductionHypothesis found

theorem mem_parameterLists_of_part? {part : Term}
    (found : term.part? position = some part)
    {parameters : List Identifier} (member : parameters ∈ part.parameterLists) :
    parameters ∈ term.parameterLists := by
  induction position generalizing term with
  | nil =>
      rw [part?, Option.some.injEq] at found
      rwa [found]
  | cons turn position inductionHypothesis =>
      cases term <;> cases turn <;>
        simp only [part?, reduceCtorEq] at found
      · exact List.mem_append_left _ (inductionHypothesis found)
      · exact List.mem_append_right _ (inductionHypothesis found)
      · exact List.mem_cons_of_mem _ (inductionHypothesis found)

/-- Several contractions leave what stands at a position apart from all of
them. -/
theorem part?_contractAll {positions : List Position}
    (apart : ∀ position ∈ positions, position.Apart other) :
    (term.contractAll positions).part? other = term.part? other := by
  induction positions generalizing term with
  | nil =>
      rfl
  | cons position later inductionHypothesis =>
      have laterApart : ∀ position ∈ later, position.Apart other :=
        fun position member => apart position (List.mem_cons_of_mem _ member)
      exact (inductionHypothesis laterApart).trans
        (part?_contractAt (apart position (List.mem_cons_self ..)))

end Contraction

/-! ## Outermost redexes -/

theorem exists_part?_of_hasRedexAt {term : Term} {position : Position}
    (redex : term.hasRedexAt position = true) :
    ∃ parameters body operand,
      term.part? position = some (.app (.lam parameters body) operand) := by
  obtain ⟨part, found, isRedex⟩ := Option.any_eq_true _ _ |>.mp redex
  cases part with
  | app operator operand =>
      cases operator with
      | lam parameters body =>
          exact ⟨parameters, body, operand, found⟩
      | _ =>
          cases isRedex
  | _ =>
      cases isRedex

/-- No outermost redex lies on the way to another one. -/
theorem OutermostRedex.apart {term : Term} {first second : Position}
    (firstOutermost : term.OutermostRedex first)
    (secondOutermost : term.OutermostRedex second)
    (different : first ≠ second) : first.Apart second := by
  apply Position.apart_of_not_isPrefix
  · intro before
    have noRedex := secondOutermost.2 first before different
    rw [firstOutermost.1] at noRedex
    cases noRedex
  · intro behind
    have noRedex := firstOutermost.2 second behind different.symm
    rw [secondOutermost.1] at noRedex
    cases noRedex

/-- Behind a turn, the outermost redexes are those of the part, unless the term
is a redex itself. -/
theorem outermostRedex_cons_iff {term part : Term} {turn : Turn}
    {position : Position} (noRedex : term.hasRedexAt [] = false)
    (inside : ∀ position,
      term.hasRedexAt (turn :: position) = part.hasRedexAt position) :
    term.OutermostRedex (turn :: position) ↔
      part.OutermostRedex position := by
  rw [OutermostRedex, OutermostRedex, inside]
  refine and_congr_right fun _ => ⟨?_, ?_⟩
  · intro noneOutside outer before different
    rw [← inside]
    exact noneOutside (turn :: outer)
      (List.cons_prefix_cons.mpr ⟨rfl, before⟩)
      fun same => different (List.cons.inj same).2
  · intro noneOutside outer before different
    rcases List.prefix_cons_iff.mp before with rfl | ⟨rest, rfl, restBefore⟩
    · exact noRedex
    · rw [inside]
      exact noneOutside rest restBefore
        fun same => different (congrArg _ same)

@[simp]
theorem hasRedexAt_nil (term : Term) :
    term.hasRedexAt [] = term.isRedex := by
  rw [hasRedexAt, part?, Option.any_some]

/-- A redex is the only outermost redex in itself. -/
theorem outermostRedex_iff_of_isRedex {term : Term} {position : Position}
    (redex : term.isRedex = true) :
    term.OutermostRedex position ↔ position = [] := by
  rw [← hasRedexAt_nil] at redex
  constructor
  · intro outermost
    by_contra inside
    have noRedex := outermost.2 [] List.nil_prefix (Ne.symm inside)
    rw [redex] at noRedex
    cases noRedex
  · rintro rfl
    refine ⟨redex, ?_⟩
    intro outer before different
    exact absurd (List.prefix_nil.mp before) different

/-- The list of the outermost redexes is complete. -/
theorem mem_outermostRedexes {term : Term} {position : Position} :
    position ∈ term.outermostRedexes ↔ term.OutermostRedex position := by
  induction term generalizing position with
  | var identifier =>
      refine iff_of_false List.not_mem_nil ?_
      rintro ⟨redex, _⟩
      cases position <;> simp [hasRedexAt, part?, isRedex] at redex
  | lam parameters body inductionHypothesis =>
      have below (inBody : Position) :
          (lam parameters body).OutermostRedex (.body :: inBody) ↔
            body.OutermostRedex inBody :=
        outermostRedex_cons_iff (hasRedexAt_nil _) fun _ => rfl
      rw [outermostRedexes, List.mem_map]
      constructor
      · rintro ⟨inBody, member, rfl⟩
        exact (below inBody).mpr (inductionHypothesis.mp member)
      · intro outermost
        cases position with
        | nil =>
            cases outermost.1
        | cons turn inside =>
            cases turn with
            | body =>
                exact ⟨inside,
                  inductionHypothesis.mpr ((below inside).mp outermost), rfl⟩
            | operator | operand =>
                cases outermost.1
  | app operator operand operatorHypothesis operandHypothesis =>
      rw [outermostRedexes]
      by_cases redex : operator.isLam = true
      · rw [if_pos redex, List.mem_singleton]
        have isRedex : (app operator operand).isRedex = true := redex
        exact (outermostRedex_iff_of_isRedex isRedex).symm
      · have noRedex : (app operator operand).hasRedexAt [] = false := by
          rw [hasRedexAt_nil]
          exact Bool.eq_false_iff.mpr redex
        have inOperator (inside : Position) :
            (app operator operand).OutermostRedex (.operator :: inside) ↔
              operator.OutermostRedex inside :=
          outermostRedex_cons_iff noRedex fun _ => rfl
        have inOperand (inside : Position) :
            (app operator operand).OutermostRedex (.operand :: inside) ↔
              operand.OutermostRedex inside :=
          outermostRedex_cons_iff noRedex fun _ => rfl
        rw [if_neg redex, List.mem_append, List.mem_map, List.mem_map]
        constructor
        · rintro (⟨inside, member, rfl⟩ | ⟨inside, member, rfl⟩)
          · exact (inOperator inside).mpr (operatorHypothesis.mp member)
          · exact (inOperand inside).mpr (operandHypothesis.mp member)
        · intro outermost
          cases position with
          | nil =>
              rw [outermost.1] at noRedex
              cases noRedex
          | cons turn inside =>
              cases turn with
              | operator =>
                  exact Or.inl ⟨inside, operatorHypothesis.mpr
                    ((inOperator inside).mp outermost), rfl⟩
              | operand =>
                  exact Or.inr ⟨inside, operandHypothesis.mpr
                    ((inOperand inside).mp outermost), rfl⟩
              | body =>
                  cases outermost.1

/-- The list of the outermost redexes is free of repetitions. -/
theorem nodup_outermostRedexes (term : Term) :
    term.outermostRedexes.Nodup := by
  induction term with
  | var identifier =>
      exact List.nodup_nil
  | lam parameters body inductionHypothesis =>
      exact inductionHypothesis.map List.cons_injective
  | app operator operand operatorHypothesis operandHypothesis =>
      rw [outermostRedexes]
      split
      · exact List.nodup_singleton _
      · refine List.nodup_append.mpr
          ⟨operatorHypothesis.map List.cons_injective,
            operandHypothesis.map List.cons_injective, ?_⟩
        intro first inOperator second inOperand same
        obtain ⟨_, _, rfl⟩ := List.mem_map.mp inOperator
        obtain ⟨_, _, rfl⟩ := List.mem_map.mp inOperand
        cases same

/-! ## A pass, redex by redex -/

theorem contractAll_append (term : Term) (first last : List Position) :
    term.contractAll (first ++ last) =
      (term.contractAll first).contractAll last :=
  List.foldl_append

/-- Contractions behind a turn take place in the part that it leads to. -/
theorem contractAll_map_cons (turn : Turn) (around : Term → Term)
    (inside : ∀ part position,
      (around part).contractAt (turn :: position) =
        around (part.contractAt position))
    (part : Term) (positions : List Position) :
    (around part).contractAll (positions.map (turn :: ·)) =
      around (part.contractAll positions) := by
  induction positions generalizing part with
  | nil =>
      rfl
  | cons position later inductionHypothesis =>
      rw [List.map_cons, contractAll, List.foldl_cons, inside]
      exact inductionHypothesis (part.contractAt position)

/-- From left to right, the contractions of the outermost redexes make up a
pass. -/
theorem contractAll_outermostRedexes (term : Term) :
    term.contractAll term.outermostRedexes = term.pass := by
  induction term with
  | var identifier =>
      rfl
  | lam parameters body inductionHypothesis =>
      have inBody := contractAll_map_cons .body (lam parameters)
        fun _ _ => by rw [contractAt]
      rw [outermostRedexes, inBody, inductionHypothesis, pass]
  | app operator operand operatorHypothesis operandHypothesis =>
      cases redex : operator.isLam with
      | true =>
          cases operator with
          | lam parameters body =>
              rfl
          | _ =>
              cases redex
      | false =>
          have inOperator := contractAll_map_cons .operator
            (fun part => app part operand) fun _ _ => by rw [contractAt]
          have inOperand := contractAll_map_cons .operand
            (app operator.pass) fun _ _ => by rw [contractAt]
          rw [outermostRedexes, if_neg (by simp [redex]),
            contractAll_append, inOperator, operatorHypothesis, inOperand,
            operandHypothesis, pass_app_of_not_isLam operand redex]

/-- The outermost redexes of a term can be contracted one after the other in
any order, and this makes up one pass. Each of them is contracted once, as the
redex that it is in the term at the beginning: its first parameter is replaced
by the operand, and the other parameters stay, if there are any. -/
theorem contractAll_in_any_order {term : Term} {positions : List Position}
    (nonempty : ∀ parameters ∈ term.parameterLists, parameters ≠ [])
    (distinct : positions.Nodup)
    (complete : ∀ position,
      position ∈ positions ↔ term.OutermostRedex position) :
    term.contractAll positions = term.pass ∧
    ∀ earlier position later, positions = earlier ++ position :: later →
      ∃ parameter more body operand,
        term.part? position =
          some (.app (.lam (parameter :: more) body) operand) ∧
        (term.contractAll earlier).part? position = term.part? position ∧
        (term.contractAll (earlier ++ [position])).part? position =
          some (if more = [] then body.replace parameter operand
            else .lam more (body.replace parameter operand)) := by
  have apart : ∀ first ∈ positions, ∀ second ∈ positions, first ≠ second →
      first.Apart second := fun first firstMember second secondMember =>
    ((complete first).mp firstMember).apart ((complete second).mp secondMember)
  constructor
  · have sameRedexes : positions.Perm term.outermostRedexes := by
      rw [List.perm_ext_iff_of_nodup distinct term.nodup_outermostRedexes]
      intro position
      rw [complete, mem_outermostRedexes]
    rw [← contractAll_outermostRedexes]
    apply sameRedexes.foldl_eq'
    intro first firstMember second secondMember between
    by_cases same : first = second
    · rw [same]
    · exact contractAt_comm (apart first firstMember second secondMember same)
  · rintro earlier position later rfl
    have member : position ∈ earlier ++ position :: later :=
      List.mem_append_right _ (List.mem_cons_self ..)
    obtain ⟨parameters, body, operand, found⟩ :=
      exists_part?_of_hasRedexAt ((complete position).mp member).1
    have inTerm : parameters ∈ term.parameterLists :=
      mem_parameterLists_of_part? found (List.mem_cons_self ..)
    obtain ⟨parameter, more, rfl⟩ :=
      List.exists_cons_of_ne_nil (nonempty parameters inTerm)
    have untouched :
        (term.contractAll earlier).part? position = term.part? position := by
      apply part?_contractAll
      intro other otherMember
      apply apart other (List.mem_append_left _ otherMember) position member
      rintro rfl
      exact (List.nodup_append.mp distinct).2.2 _ otherMember _
        (List.mem_cons_self ..) rfl
    refine ⟨parameter, more, body, operand, found, untouched, ?_⟩
    rw [contractAll_append, contractAll, List.foldl_cons, List.foldl_nil,
      part?_contractAt_self (untouched.trans found)]
    cases more <;> rfl

/-- The term `(\x. x) (\y. y) ((\z w. z) b)`, with a redex on either side of
the application. -/
def redexesOnBothSides : Term :=
  .app
    (.app (.lam [⟨"x", 1⟩] (.var ⟨"x", 1⟩))
      (.lam [⟨"y", 1⟩] (.var ⟨"y", 1⟩)))
    (.app (.lam [⟨"z", 1⟩, ⟨"w", 1⟩] (.var ⟨"z", 1⟩)) (.var ⟨"b", 0⟩))

/-- The operand is contracted first, and the operator after it, which makes the
whole term a redex. -/
theorem contractAll_operand_before_operator :
    (∀ parameters ∈ redexesOnBothSides.parameterLists, parameters ≠ []) ∧
    [[Turn.operand], [Turn.operator]].Nodup ∧
    (∀ position : Position, position ∈ [[Turn.operand], [Turn.operator]] ↔
      redexesOnBothSides.OutermostRedex position) ∧
    redexesOnBothSides.contractAll [[.operand], [.operator]] =
      redexesOnBothSides.pass ∧
    redexesOnBothSides.pass.isRedex = true := by
  have nonempty :
      ∀ parameters ∈ redexesOnBothSides.parameterLists, parameters ≠ [] := by
    decide
  have distinct : [[Turn.operand], [Turn.operator]].Nodup := by
    decide
  have complete : ∀ position : Position,
      position ∈ [[Turn.operand], [Turn.operator]] ↔
        redexesOnBothSides.OutermostRedex position := by
    intro position
    rw [← mem_outermostRedexes]
    exact (List.Perm.swap _ _ []).mem_iff
  exact ⟨nonempty, distinct, complete,
    (contractAll_in_any_order nonempty distinct complete).1, rfl⟩

end Term

end NumberedLambda
