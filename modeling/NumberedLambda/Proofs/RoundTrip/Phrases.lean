import NumberedLambda.Proofs.RoundTrip.Rereading

/-!
# Texts of phrases

A source text is put together from the texts of its phrases in the same way in
which the grammar puts together their tokens. So that a text stands for a tree
can be seen from its form, without a look at how it is divided into tokens.

A numbered term is determined by its tree. Hence a text that stands for the
tree of a numbered term is read as this term.
-/

namespace NumberedLambda

open Scanner (IsName Spells)

namespace Grammar

/-- A text that is a phrase of some kind and stands for a tree. -/
def Denotes (phrase : Phrase) (text : String) (tree : Skeleton) : Prop :=
  ∃ tokens, Spells text.toList tokens ∧ Derives phrase tokens tree

namespace Denotes

variable {text first last : String} {tree operator operand : Skeleton}

theorem name (isName : IsName text) : Denotes .atom text (.var text) :=
  ⟨_, .name isName, .name text⟩

theorem parenthesized (inner : Denotes .expression text tree) :
    Denotes .atom ("(" ++ text ++ ")") tree := by
  obtain ⟨tokens, spells, derivation⟩ := inner
  exact ⟨_, spells.parenthesized, .parenthesized derivation⟩

theorem oneAtom (atom : Denotes .atom text tree) :
    Denotes .atoms text tree := by
  obtain ⟨tokens, spells, derivation⟩ := atom
  exact ⟨tokens, spells, .oneAtom derivation⟩

theorem moreAtoms (atoms : Denotes .atoms first operator)
    (atom : Denotes .atom last operand) :
    Denotes .atoms (first ++ " " ++ last) (.app operator operand) := by
  obtain ⟨firstTokens, spellsFirst, derivationFirst⟩ := atoms
  obtain ⟨lastTokens, spellsLast, derivationLast⟩ := atom
  exact
    ⟨_, .juxtaposed (ne_nil_of_derives derivationLast) spellsFirst spellsLast,
      .moreAtoms derivationFirst derivationLast⟩

theorem application (atoms : Denotes .atoms text tree) :
    Denotes .expression text tree := by
  obtain ⟨tokens, spells, derivation⟩ := atoms
  exact ⟨tokens, spells, .application derivation⟩

theorem abstraction {names : List String} (someNames : names ≠ [])
    (distinct : names.Nodup) (allNames : ∀ name ∈ names, IsName name)
    (body : Denotes .expression text tree) :
    Denotes .expression ("\\" ++ " ".intercalate names ++ ". " ++ text)
      (.lam names tree) := by
  obtain ⟨tokens, spells, derivation⟩ := body
  exact
    ⟨_, .abstraction allNames (ne_nil_of_derives derivation) spells,
      .bareAbstraction (.abstraction someNames distinct derivation)⟩

end Denotes

end Grammar

namespace Term

/-! ## Numbered terms and their trees -/

/-- Parameters that count the binders outside are determined by their
names. -/
theorem parameters_eq_of_numbered {names : List String}
    {parameters others : List Identifier}
    (sameNames : parameters.map Identifier.name = others.map Identifier.name)
    (numbered : ∀ parameter ∈ parameters,
      parameter.number = names.count parameter.name + 1)
    (othersNumbered : ∀ other ∈ others,
      other.number = names.count other.name + 1) :
    parameters = others := by
  have ofNames {list : List Identifier}
      (listNumbered : ∀ parameter ∈ list,
        parameter.number = names.count parameter.name + 1) :
      (list.map Identifier.name).map
        (fun name => (⟨name, names.count name + 1⟩ : Identifier)) = list := by
    rw [List.map_map, List.map_congr_left (g := id), List.map_id]
    intro parameter member
    simp [← listNumbered parameter member]
  rw [← ofNames numbered, sameNames, ofNames othersNumbered]

/-- A numbered term is determined by its tree. -/
theorem eq_of_skeleton_eq {names : List String} {first second : Term}
    (sameTree : first.skeleton = second.skeleton)
    (firstNumbered : first.NumberedUnder names)
    (secondNumbered : second.NumberedUnder names) : first = second := by
  induction first generalizing second names with
  | var identifier =>
      cases second with
      | app operator operand =>
          cases sameTree
      | lam parameters body =>
          cases sameTree
      | var other =>
          obtain ⟨name, number⟩ := identifier
          obtain ⟨otherName, otherNumber⟩ := other
          injection sameTree with sameName
          have sameText : name = otherName := sameName
          subst sameText
          have sameNumber : number = otherNumber :=
            firstNumbered.trans secondNumbered.symm
          rw [sameNumber]
  | app operator operand operatorHypothesis operandHypothesis =>
      cases second with
      | var identifier =>
          cases sameTree
      | lam parameters body =>
          cases sameTree
      | app otherOperator otherOperand =>
          injection sameTree with sameOperator sameOperand
          rw [operatorHypothesis sameOperator firstNumbered.1
              secondNumbered.1,
            operandHypothesis sameOperand firstNumbered.2 secondNumbered.2]
  | lam parameters body inductionHypothesis =>
      cases second with
      | var identifier =>
          cases sameTree
      | app operator operand =>
          cases sameTree
      | lam others otherBody =>
          injection sameTree with sameNames sameBody
          have sameParameters : parameters = others :=
            parameters_eq_of_numbered sameNames firstNumbered.1
              secondNumbered.1
          subst sameParameters
          rw [inductionHypothesis sameBody firstNumbered.2 secondNumbered.2]

/-- A source text is read as the numbered term whose tree it stands for. -/
theorem parse_eq_ok {source : String} {term : Term}
    (denotes : Grammar.Denotes .expression source term.skeleton)
    (numbered : term.Numbered) : Term.parse source = .ok term := by
  obtain ⟨tokens, spells, sentence⟩ := denotes
  obtain ⟨started, scanner, begun, faces, atEnd⟩ :=
    Parser.exists_faces_of_spells .silent spells sentence
  have ends : scanner.lookahead.endsTerm = true := by
    rw [atEnd]
    rfl
  obtain ⟨found, after, parsed, sameTree, _⟩ :=
    Parser.exists_parse_of_faces faces ends
  have same : found = term :=
    eq_of_skeleton_eq sameTree (Parser.numbered_of_parse parsed) numbered
  rw [Term.parse, begun, Answer.andThen_ok, parsed, same]

end Term

end NumberedLambda
