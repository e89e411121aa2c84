import NumberedLambda.Parser.First
import NumberedLambda.Proofs.RoundTrip.WrittenTerm

/-!
# Written terms are read in one way

Different terms are written differently, whatever their lists of parameters and
numbers are, as long as their names can stand in identifiers. The written form
leaves out parentheses and groups applications to the left, so it is compared
atom by atom: a term that is no abstraction is written as its operator, which
is no application, and the operands of this operator. Each of these is a single
identifier or stands in parentheses, and the tokens tell where it ends. An
abstraction ends where no further operand follows.
-/

namespace NumberedLambda

namespace Term

open Scanner (Spells)

/-! ## Atoms -/

private theorem exists_var_of_isVar {term : Term} (isVar : term.isVar = true) :
    ∃ identifier, term = var identifier := by
  cases term with
  | var identifier =>
      exact ⟨identifier, rfl⟩
  | app operator operand =>
      cases isVar
  | lam parameters body =>
      cases isVar

private theorem exists_lam_of_isLam {term : Term}
    (isLam : term.isLam = true) :
    ∃ parameters body, term = lam parameters body := by
  cases term with
  | var identifier =>
      cases isLam
  | app operator operand =>
      cases isLam
  | lam parameters body =>
      exact ⟨parameters, body, rfl⟩

/-- The tokens of a term in operand position. -/
def operandTokens (term : Term) : List Token :=
  Token.parenthesizedIf (!term.isVar) term.tokens

/-- The parts that a term applies from left to right: an operator that is no
application, and its operands. -/
def atoms : Term → List Term
  | .app operator operand => operator.atoms ++ [operand]
  | term => [term]

theorem atoms_ne_nil (term : Term) : term.atoms ≠ [] := by
  cases term with
  | var identifier =>
      exact List.cons_ne_nil _ _
  | app operator operand =>
      exact List.concat_ne_nil operand operator.atoms
  | lam parameters body =>
      exact List.cons_ne_nil _ _

private theorem append_singleton_ne_singleton {operator : Term}
    (first last : Term) : operator.atoms ++ [first] ≠ [last] := by
  intro same
  have sameLength := congrArg List.length same
  have something := List.length_pos_iff.mpr operator.atoms_ne_nil
  rw [List.length_append] at sameLength
  simp only [List.length_singleton] at sameLength
  omega

/-- A term is determined by its atoms. -/
theorem atoms_injective {first second : Term}
    (same : first.atoms = second.atoms) : first = second := by
  induction first generalizing second with
  | app operator operand operatorHypothesis operandHypothesis =>
      cases second with
      | app otherOperator otherOperand =>
          obtain ⟨sameOperators, sameOperands⟩ := List.append_inj' same rfl
          rw [operatorHypothesis sameOperators, List.singleton_inj.mp
            sameOperands]
      | var identifier =>
          exact absurd same (append_singleton_ne_singleton _ _)
      | lam parameters body =>
          exact absurd same (append_singleton_ne_singleton _ _)
  | var identifier =>
      cases second with
      | app operator operand =>
          exact absurd same.symm (append_singleton_ne_singleton _ _)
      | var other =>
          exact List.singleton_inj.mp same
      | lam parameters body =>
          exact List.singleton_inj.mp same
  | lam parameters body inductionHypothesis =>
      cases second with
      | app operator operand =>
          exact absurd same.symm (append_singleton_ne_singleton _ _)
      | var identifier =>
          exact List.singleton_inj.mp same
      | lam otherParameters otherBody =>
          exact List.singleton_inj.mp same

/-- A term that is no abstraction is written as its atoms. -/
theorem tokens_eq_flatMap_atoms {term : Term} (noLam : term.isLam = false) :
    term.tokens = term.atoms.flatMap operandTokens := by
  induction term with
  | var identifier =>
      rfl
  | app operator operand operatorHypothesis operandHypothesis =>
      rw [tokens, atoms, List.flatMap_append, List.flatMap_singleton]
      refine congrArg (· ++ operand.operandTokens) ?_
      cases isLam : operator.isLam with
      | false =>
          exact operatorHypothesis isLam
      | true =>
          obtain ⟨parameters, body, rfl⟩ := exists_lam_of_isLam isLam
          exact (List.append_nil _).symm
  | lam parameters body inductionHypothesis =>
      cases noLam

/-! ## Where an atom begins and ends -/

/-- Tokens that do not go on with an atom. -/
def BeginsNoAtom (tokens : List Token) : Prop :=
  ∀ token ∈ tokens.head?, token.beginsAtom = false

/-- A term is read in one way: behind it, where no atom follows, its tokens
tell which term they are and where it ends. -/
def ReadInOneWay (term : Term) : Prop :=
  ∀ other rest otherRest, BeginsNoAtom rest → BeginsNoAtom otherRest →
    term.tokens ++ rest = other.tokens ++ otherRest →
    term = other ∧ rest = otherRest

theorem operandTokens_var (identifier : Identifier) :
    (var identifier).operandTokens = [.identifier identifier.render] :=
  rfl

theorem operandTokens_of_not_isVar {term : Term}
    (noVar : term.isVar = false) :
    term.operandTokens = .leftParen :: (term.tokens ++ [.rightParen]) := by
  rw [operandTokens, noVar]
  rfl

/-- An operand begins as an atom does. -/
theorem exists_cons_operandTokens (term : Term) :
    ∃ token later, term.operandTokens = token :: later ∧
      token.beginsAtom = true := by
  cases isVar : term.isVar with
  | true =>
      obtain ⟨identifier, rfl⟩ := exists_var_of_isVar isVar
      exact ⟨_, _, operandTokens_var identifier, rfl⟩
  | false =>
      exact ⟨_, _, operandTokens_of_not_isVar isVar, rfl⟩

private theorem not_beginsNoAtom_operandTokens (term : Term)
    (later : List Token) : ¬BeginsNoAtom (term.operandTokens ++ later) := by
  intro ends
  obtain ⟨token, others, shape, begins⟩ := term.exists_cons_operandTokens
  rw [shape] at ends
  have noAtom := ends token rfl
  rw [begins] at noAtom
  cases noAtom

/-- An operand ends at its only token or at the parenthesis that closes it, so
it does not matter what follows. -/
theorem operandTokens_cancel {term other : Term} {rest otherRest : List Token}
    (oneWay : term.isVar = false → term.ReadInOneWay)
    (same : term.operandTokens ++ rest = other.operandTokens ++ otherRest) :
    term = other ∧ rest = otherRest := by
  cases isVar : term.isVar <;> cases otherIsVar : other.isVar
  case true.true =>
    obtain ⟨identifier, rfl⟩ := exists_var_of_isVar isVar
    obtain ⟨otherIdentifier, rfl⟩ := exists_var_of_isVar otherIsVar
    injection same with sameToken sameRest
    injection sameToken with sameText
    rw [Identifier.render_injective sameText]
    exact ⟨rfl, sameRest⟩
  case true.false =>
    obtain ⟨identifier, rfl⟩ := exists_var_of_isVar isVar
    rw [operandTokens_of_not_isVar otherIsVar] at same
    cases same
  case false.true =>
    obtain ⟨otherIdentifier, rfl⟩ := exists_var_of_isVar otherIsVar
    rw [operandTokens_of_not_isVar isVar] at same
    cases same
  case false.false =>
    rw [operandTokens_of_not_isVar isVar,
      operandTokens_of_not_isVar otherIsVar] at same
    simp only [List.cons_append, List.append_assoc, List.nil_append,
      List.cons.injEq, true_and] at same
    have closed (later : List Token) :
        BeginsNoAtom (.rightParen :: later) := by
      intro token member
      cases member
      rfl
    obtain ⟨sameTerm, sameRest⟩ :=
      oneWay isVar other _ _ (closed rest) (closed otherRest) same
    injection sameRest with _ sameRest
    exact ⟨sameTerm, sameRest⟩

/-- A list of operands ends where no atom follows. -/
theorem flatMap_operandTokens_cancel {terms others : List Term}
    {rest otherRest : List Token}
    (oneWay : ∀ term ∈ terms, term.isVar = false → term.ReadInOneWay)
    (ends : BeginsNoAtom rest) (otherEnds : BeginsNoAtom otherRest)
    (same : terms.flatMap operandTokens ++ rest =
      others.flatMap operandTokens ++ otherRest) :
    terms = others ∧ rest = otherRest := by
  induction terms generalizing others with
  | nil =>
      cases others with
      | nil =>
          exact ⟨rfl, same⟩
      | cons other others =>
          rw [List.flatMap_nil, List.nil_append, List.flatMap_cons,
            List.append_assoc] at same
          exact absurd (same ▸ ends) (not_beginsNoAtom_operandTokens _ _)
  | cons term terms inductionHypothesis =>
      rw [List.flatMap_cons, List.append_assoc] at same
      cases others with
      | nil =>
          rw [List.flatMap_nil, List.nil_append] at same
          exact absurd (same ▸ otherEnds)
            (not_beginsNoAtom_operandTokens _ _)
      | cons other others =>
          rw [List.flatMap_cons, List.append_assoc] at same
          obtain ⟨rfl, sameLater⟩ := operandTokens_cancel
            (oneWay term (List.mem_cons_self ..)) same
          obtain ⟨rfl, sameRest⟩ := inductionHypothesis
            (fun other member => oneWay other (List.mem_cons_of_mem _ member))
            sameLater
          exact ⟨rfl, sameRest⟩

/-! ## Abstractions -/

/-- A list of parameters ends at its dot. -/
theorem parameters_cancel {parameters others : List Identifier}
    {rest otherRest : List Token}
    (same : (parameters.map Identifier.render).map Token.identifier ++
        .dot :: rest =
      (others.map Identifier.render).map Token.identifier ++
        .dot :: otherRest) :
    parameters = others ∧ rest = otherRest := by
  induction parameters generalizing others with
  | nil =>
      cases others with
      | nil =>
          injection same with _ sameRest
          exact ⟨rfl, sameRest⟩
      | cons other others =>
          cases same
  | cons parameter parameters inductionHypothesis =>
      cases others with
      | nil =>
          cases same
      | cons other others =>
          injection same with sameToken sameLater
          injection sameToken with sameText
          obtain ⟨rfl, sameRest⟩ := inductionHypothesis sameLater
          rw [Identifier.render_injective sameText]
          exact ⟨rfl, sameRest⟩

/-- An abstraction begins with a backslash, any other term with an atom. -/
private theorem tokens_lam_append_ne {other : Term}
    (noLam : other.isLam = false) (parameters : List Identifier)
    (body : Term) (rest otherRest : List Token) :
    (lam parameters body).tokens ++ rest ≠ other.tokens ++ otherRest := by
  intro same
  obtain ⟨first, later, shape⟩ :=
    List.exists_cons_of_ne_nil other.atoms_ne_nil
  obtain ⟨token, others, begins, isAtom⟩ := first.exists_cons_operandTokens
  rw [tokens_eq_flatMap_atoms noLam, shape, List.flatMap_cons, begins] at same
  injection same with sameToken _
  rw [← sameToken] at isAtom
  cases isAtom

/-- An abstraction is read in one way if its body is. -/
theorem ReadInOneWay.lam {body : Term} (oneWay : body.ReadInOneWay)
    (parameters : List Identifier) : (lam parameters body).ReadInOneWay := by
  intro other rest otherRest ends otherEnds same
  cases isLam : other.isLam with
  | false =>
      exact absurd same (tokens_lam_append_ne isLam _ _ _ _)
  | true =>
      obtain ⟨otherParameters, otherBody, rfl⟩ := exists_lam_of_isLam isLam
      simp only [tokens, List.cons_append, List.append_assoc,
        List.cons.injEq, true_and] at same
      obtain ⟨rfl, sameBodies⟩ := parameters_cancel same
      obtain ⟨rfl, sameRest⟩ := oneWay _ _ _ ends otherEnds sameBodies
      exact ⟨rfl, sameRest⟩

/-! ## Terms -/

/-- A term is read in one way if its atoms are. -/
theorem readInOneWay_of_atoms {term : Term}
    (oneWay : ∀ atom ∈ term.atoms, atom.isVar = false → atom.ReadInOneWay) :
    term.ReadInOneWay := by
  cases isLam : term.isLam with
  | true =>
      obtain ⟨parameters, body, rfl⟩ := exists_lam_of_isLam isLam
      exact oneWay _ (List.mem_cons_self ..) rfl
  | false =>
      intro other rest otherRest ends otherEnds same
      cases otherIsLam : other.isLam with
      | true =>
          obtain ⟨parameters, body, rfl⟩ := exists_lam_of_isLam otherIsLam
          exact absurd same.symm (tokens_lam_append_ne isLam _ _ _ _)
      | false =>
          rw [tokens_eq_flatMap_atoms isLam,
            tokens_eq_flatMap_atoms otherIsLam] at same
          obtain ⟨sameAtoms, sameRest⟩ :=
            flatMap_operandTokens_cancel oneWay ends otherEnds same
          exact ⟨atoms_injective sameAtoms, sameRest⟩

theorem readInOneWay_of_mem_atoms {term : Term} :
    ∀ atom ∈ term.atoms, atom.isVar = false → atom.ReadInOneWay := by
  -- The operator of an application need not be read in one way itself, since
  -- it goes on with the operand. So the induction is on the atoms.
  induction term with
  | var identifier =>
      intro atom member noVar
      cases List.mem_singleton.mp member
      cases noVar
  | app operator operand operatorHypothesis operandHypothesis =>
      intro atom member noVar
      rcases List.mem_append.mp member with inOperator | last
      · exact operatorHypothesis atom inOperator noVar
      · cases List.mem_singleton.mp last
        exact readInOneWay_of_atoms operandHypothesis
  | lam parameters body inductionHypothesis =>
      intro atom member _
      cases List.mem_singleton.mp member
      exact (readInOneWay_of_atoms inductionHypothesis).lam parameters

/-- Every term is read in one way. -/
theorem readInOneWay (term : Term) : term.ReadInOneWay :=
  readInOneWay_of_atoms readInOneWay_of_mem_atoms

theorem tokens_injective {first second : Term}
    (same : first.tokens = second.tokens) : first = second := by
  have nothingBehind : BeginsNoAtom [] := nofun
  have sameBehind : first.tokens ++ [] = second.tokens ++ [] := by
    rw [same]
  exact (first.readInOneWay second [] [] nothingBehind nothingBehind
    sameBehind).1

/-- Terms whose names can stand in identifiers are written alike only if they
are equal. Lists of parameters may be empty or repeat an identifier. -/
theorem render_eq_render_iff {first second : Term}
    (readable : first.Readable) (otherReadable : second.Readable) :
    first.render = second.render ↔ first = second := by
  refine ⟨fun same => ?_, congrArg render⟩
  have spells := spells_render readable
  rw [same] at spells
  exact tokens_injective (spells.unique (spells_render otherReadable))

/-- A name may show a number of its own or nothing at all, a parameter list may
be empty, and applications may group to either side. -/
theorem similar_terms_are_written_apart :
    ∃ first second : Term,
      first = .app (.app (.var ⟨"x_1", 0⟩) (.var ⟨"", 2⟩))
        (.lam [] (.var ⟨"x", 1⟩)) ∧
      second = .app (.var ⟨"x_1", 0⟩)
        (.app (.var ⟨"", 2⟩) (.lam [] (.var ⟨"x", 1⟩))) ∧
      first.Readable ∧ second.Readable ∧
      (first.render = second.render ↔ first = second) ∧
      first.render ≠ second.render := by
  have readable (name : String) (number : Nat)
      (known : name = "x_1" ∨ name = "" ∨ name = "x") :
      Identifier.Readable ⟨name, number⟩ := by
    intro character member
    have allowed : character = 'x' ∨ character = '_' ∨ character = '1' := by
      rcases known with rfl | rfl | rfl
      · simpa using member
      · simp at member
      · exact Or.inl (by simpa using member)
    rcases allowed with rfl | rfl | rfl <;> decide
  have firstReadable : Term.Readable
      (.app (.app (.var ⟨"x_1", 0⟩) (.var ⟨"", 2⟩))
        (.lam [] (.var ⟨"x", 1⟩))) := by
    simp [readable]
  have secondReadable : Term.Readable
      (.app (.var ⟨"x_1", 0⟩)
        (.app (.var ⟨"", 2⟩) (.lam [] (.var ⟨"x", 1⟩)))) := by
    simp [readable]
  have written := render_eq_render_iff firstReadable secondReadable
  exact ⟨_, _, rfl, rfl, firstReadable, secondReadable, written,
    fun same => absurd (written.mp same) (by decide)⟩

end Term

end NumberedLambda
