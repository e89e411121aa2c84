import NumberedLambda.Proofs.Numbering.LexicalScope
import NumberedLambda.Proofs.Reduction.Pass

/-!
# The first pass over a term that was read

In a numbered term a free identifier of an operand counts the binders of its
name around the application, while every binder inside the operator counts at
least one more. So no binder there can capture it, at any redex of the term,
and the first pass is contraction with capture-avoiding substitution. Passes
destroy the numbering, which is why this is said of the first one only.
-/

namespace NumberedLambda

/-- A binder of a stack counts more than the binders of its name around the
stack. -/
theorem StackedOn.count_lt
    {names : List String} {binders : List Identifier}
    (stacked : StackedOn names binders) {binder : Identifier}
    (member : binder ∈ binders) :
    names.count binder.name < binder.number := by
  induction binders with
  | nil =>
      cases member
  | cons innermost outer inductionHypothesis =>
      rcases List.mem_cons.mp member with rfl | further
      · have number := stacked.1
        rw [List.count_append] at number
        omega
      · exact inductionHypothesis stacked.2 further

namespace Term

/-- Nothing is captured where a redex of a numbered term is contracted, neither
by the binders in the body nor by the parameters that stay. -/
theorem captureFree_of_numberedUnder
    {names : List String} {parameter : Identifier}
    {later : List Identifier} {body operand : Term}
    (numbered :
      (app (lam (parameter :: later) body) operand).NumberedUnder names)
    (distinct : ∀ parameters ∈
      (app (lam (parameter :: later) body) operand).parameterLists,
      (parameters.map Identifier.name).Nodup) :
    (lam later body).CaptureFree parameter operand := by
  obtain ⟨operatorNumbered, operandNumbered⟩ := numbered
  intro passed occurs _ binder member inOperand
  cases occurs with
  | @body inBody _ _ occursInBody =>
      have stacked : StackedOn names
          (inBody ++ (parameter :: later).reverse) := by
        apply stackedOn_of_occursUnder (.body _ occursInBody)
          operatorNumbered
        intro parameters inOperator
        exact distinct parameters (List.mem_append_left _ inOperator)
      have inStack : binder ∈ inBody ++ (parameter :: later).reverse := by
        rw [List.reverse_cons, ← List.append_assoc]
        exact List.mem_append_left _ member
      have counted : binder.number = names.count binder.name := by
        apply number_of_mem_free_of_numberedUnder operandNumbered _ inOperand
        intro parameters inLists
        exact distinct parameters (List.mem_append_right _ inLists)
      have counts := stacked.count_lt inStack
      omega

/-- A pass over a numbered term captures nothing. -/
theorem capturesNothing_of_numberedUnder
    {term : Term} {names : List String}
    (numbered : term.NumberedUnder names)
    (distinct : ∀ parameters ∈ term.parameterLists,
      (parameters.map Identifier.name).Nodup) :
    term.CapturesNothing := by
  fun_induction pass term generalizing names with
  | case1 identifier =>
      exact capturesNothing_var identifier
  | case2 parameters body inductionHypothesis =>
      apply capturesNothing_lam.mpr
      apply inductionHypothesis numbered.2
      intro others inBody
      exact distinct others (List.mem_cons_of_mem _ inBody)
  | case3 parameters body operand =>
      cases parameters with
      | nil =>
          intro position outermost
          cases List.mem_singleton.mp outermost
          intro parameter later otherBody otherOperand same
          cases same
      | cons parameter later =>
          exact capturesNothing_redex.mpr
            (captureFree_of_numberedUnder numbered distinct)
  | case4 operator operand noRedex operatorHypothesis operandHypothesis =>
      have noAbstraction := isLam_eq_false noRedex
      apply (capturesNothing_app noAbstraction).mpr
      constructor
      · apply operatorHypothesis numbered.1
        intro parameters inOperator
        exact distinct parameters (List.mem_append_left _ inOperator)
      · apply operandHypothesis numbered.2
        intro parameters inOperand
        exact distinct parameters (List.mem_append_right _ inOperand)

theorem capturesNothing_of_parse {parser after : Parser} {term : Term}
    (parsed : parser.parse = .ok term after) : term.CapturesNothing := by
  apply capturesNothing_of_numberedUnder (Parser.numbered_of_parse parsed)
  intro parameters member
  exact (Parser.names_of_parse parsed parameters member).2

/-- The first pass over a term that is read contracts the outermost redexes of
its nameless reading. -/
theorem nameless_pass_of_parse
    {parser after : Parser} {term : Term}
    (parsed : parser.parse = .ok term after) :
    term.pass.nameless = term.nameless.contractOutermost := by
  have proper : term.ProperParameters :=
    .of_wellFormed (Parser.wellFormed_of_parse parsed)
  exact (namelessUnder_pass_iff proper []).mpr
    (capturesNothing_of_parse parsed)

/-- In `\y. (\x y. x (\y. y x)) y` the parameter that stays and a binder of the
body have the name of the operand. -/
theorem nameless_pass_below_equal_names :
    ∃ parser term after, Parser.parse parser = .ok term after ∧
      Term.parse "\\y. (\\x y. x (\\y. y x)) y" = .ok term ∧
      term.pass.nameless = term.nameless.contractOutermost := by
  have read : Term.parse "\\y. (\\x y. x (\\y. y x)) y" =
      .ok (.lam [⟨"y", 1⟩]
        (.app
          (.lam [⟨"x", 1⟩, ⟨"y", 2⟩]
            (.app (.var ⟨"x", 1⟩)
              (.lam [⟨"y", 3⟩]
                (.app (.var ⟨"y", 3⟩) (.var ⟨"x", 1⟩)))))
          (.var ⟨"y", 1⟩))) := by
    cbv
  obtain ⟨parser, after, parsed⟩ := exists_parser_of_parse read
  exact ⟨parser, _, after, parsed, read, nameless_pass_of_parse parsed⟩

end Term

end NumberedLambda
