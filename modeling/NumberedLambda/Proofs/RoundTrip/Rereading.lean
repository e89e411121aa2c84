import NumberedLambda.Proofs.Numbering.LexicalScope
import NumberedLambda.Proofs.RoundTrip.WrittenTerm
import NumberedLambda.Term.AlphaEquivalence

/-!
# Reading a written term again

Reading the written form of a term gives the term back, up to the choice of
bound identifiers and with free identifiers turned into the names by which
they are written. A binder that is read again has the written form of the
original binder as its name. The numbers of the two may differ, but of the
binders with one name it is the innermost that a variable belongs to on both
sides.
-/

namespace NumberedLambda

private theorem findIdx?_congr {Element : Type} {list : List Element}
    {first second : Element → Bool}
    (same : ∀ element ∈ list, first element = second element) :
    list.findIdx? first = list.findIdx? second := by
  induction list with
  | nil =>
      rfl
  | cons element later inductionHypothesis =>
      rw [List.findIdx?_cons, List.findIdx?_cons,
        same element (List.mem_cons_self ..),
        inductionHypothesis fun other member =>
          same other (List.mem_cons_of_mem _ member)]

/-- In a stack the innermost binder of a name comes before every other binder
that a variable of that name could be equal to. -/
theorem StackedOn.findIdx?_eq {names : List String}
    {binders : List Identifier} (stacked : StackedOn names binders)
    (name : String) :
    binders.findIdx? (fun binder => binder =
        ⟨name, (binders.map Identifier.name ++ names).count name⟩) =
      binders.findIdx? (fun binder => binder.name = name) := by
  induction binders with
  | nil =>
      rfl
  | cons innermost outer inductionHypothesis =>
      rw [List.findIdx?_cons, List.findIdx?_cons, List.map_cons,
        List.cons_append]
      by_cases same : innermost.name = name
      · subst same
        have number := stacked.1
        rw [List.count_cons_self, ← number]
        simp
      · have different : innermost ≠
            ⟨name, (outer.map Identifier.name ++ names).count name⟩ := by
          intro equality
          exact same (congrArg Identifier.name equality)
        rw [List.count_cons_of_ne same, inductionHypothesis stacked.2,
          decide_eq_false same, decide_eq_false different]

namespace Term

/-- Binders that have been read again, paired with the original ones: they are
numbered anew, and their names show the original identifiers. -/
structure RereadBinders (pairs : List (Identifier × Identifier)) : Prop where
  stacked : StackedOn [] (pairs.map Prod.fst)
  name_eq : ∀ pair ∈ pairs, pair.1.name = pair.2.render
  number_pos : ∀ pair ∈ pairs, 0 < pair.2.number

namespace RereadBinders

variable {pairs : List (Identifier × Identifier)}

theorem nil : RereadBinders [] where
  stacked := trivial
  name_eq := nofun
  number_pos := nofun

/-- A name is bound on one side exactly by the pairs that bind the identifier
on the other side. -/
theorem name_eq_render_iff (reread : RereadBinders pairs)
    {pair : Identifier × Identifier} (member : pair ∈ pairs)
    (identifier : Identifier) :
    pair.1.name = identifier.render ↔ pair.2 = identifier := by
  rw [reread.name_eq pair member]
  constructor
  · exact Identifier.render_injective
  · intro same
    rw [same]

/-- A variable that is read again belongs to the pair to which the original
identifier belongs. -/
theorem findIdx?_eq (reread : RereadBinders pairs)
    (identifier : Identifier) :
    pairs.findIdx? (fun pair => pair.1 =
        ⟨identifier.render,
          ((pairs.map Prod.fst).map Identifier.name).count
            identifier.render⟩) =
      pairs.findIdx? (fun pair => pair.2 = identifier) := by
  have innermost := reread.stacked.findIdx?_eq identifier.render
  rw [List.append_nil, List.findIdx?_map, List.findIdx?_map] at innermost
  refine innermost.trans (findIdx?_congr ?_)
  intro pair member
  exact decide_eq_decide.mpr (reread.name_eq_render_iff member identifier)

theorem sameVariable_of_mem (reread : RereadBinders pairs)
    {identifier : Identifier} (bound : identifier ∈ pairs.map Prod.snd) :
    sameVariable pairs
      ⟨identifier.render,
        ((pairs.map Prod.fst).map Identifier.name).count identifier.render⟩
      identifier = true := by
  rw [sameVariable, reread.findIdx?_eq]
  cases found : pairs.findIdx? (fun pair => pair.2 = identifier) with
  | some index =>
      exact beq_self_eq_true index
  | none =>
      obtain ⟨pair, member, same⟩ := List.mem_map.mp bound
      have absent := List.findIdx?_eq_none_iff.mp found pair member
      exact absurd same (of_decide_eq_false absent)

theorem sameVariable_of_not_mem (reread : RereadBinders pairs)
    {identifier : Identifier} (unbound : identifier ∉ pairs.map Prod.snd) :
    sameVariable pairs
      ⟨identifier.render,
        ((pairs.map Prod.fst).map Identifier.name).count identifier.render⟩
      ⟨identifier.render, 0⟩ = true := by
  have noName : identifier.render ∉
      (pairs.map Prod.fst).map Identifier.name := by
    intro named
    obtain ⟨binder, inBinders, same⟩ := List.mem_map.mp named
    obtain ⟨pair, member, rfl⟩ := List.mem_map.mp inBinders
    have sameIdentifier := (reread.name_eq_render_iff member identifier).mp same
    exact unbound (List.mem_map.mpr ⟨pair, member, sameIdentifier⟩)
  have notLeft : pairs.findIdx? (fun pair =>
      pair.1 = ⟨identifier.render, 0⟩) = none := by
    rw [List.findIdx?_eq_none_iff]
    intro pair member
    refine decide_eq_false ?_
    intro same
    refine noName (List.mem_map.mpr ⟨pair.1, ?_, congrArg Identifier.name same⟩)
    exact List.mem_map_of_mem member
  have notRight : pairs.findIdx? (fun pair =>
      pair.2 = ⟨identifier.render, 0⟩) = none := by
    rw [List.findIdx?_eq_none_iff]
    intro pair member
    refine decide_eq_false ?_
    intro same
    have positive := reread.number_pos pair member
    rw [same] at positive
    exact Nat.lt_irrefl 0 positive
  rw [List.count_eq_zero.mpr noName, sameVariable, notLeft, notRight]
  exact beq_self_eq_true _

private theorem map_fst_append_zip
    {parameters originals : List Identifier}
    (sameLength : parameters.length = originals.length) :
    ((parameters.zip originals).reverse ++ pairs).map Prod.fst =
      parameters.reverse ++ pairs.map Prod.fst := by
  rw [List.map_append, List.map_reverse,
    List.map_fst_zip (Nat.le_of_eq sameLength)]

private theorem map_snd_append_zip
    {parameters originals : List Identifier}
    (sameLength : parameters.length = originals.length) :
    ((parameters.zip originals).reverse ++ pairs).map Prod.snd =
      originals.reverse ++ pairs.map Prod.snd := by
  rw [List.map_append, List.map_reverse,
    List.map_snd_zip (Nat.le_of_eq sameLength.symm)]

private theorem length_eq_of_names
    {parameters originals : List Identifier}
    (sameNames : parameters.map Identifier.name =
      originals.map Identifier.render) :
    parameters.length = originals.length := by
  have sameLength := congrArg List.length sameNames
  rwa [List.length_map, List.length_map] at sameLength

private theorem name_eq_of_mem_zip
    {parameters originals : List Identifier}
    (sameNames : parameters.map Identifier.name =
      originals.map Identifier.render) :
    ∀ pair ∈ parameters.zip originals, pair.1.name = pair.2.render := by
  have sameLength := length_eq_of_names sameNames
  have paired :
      (parameters.zip originals).map (Identifier.name ∘ Prod.fst) =
        (parameters.zip originals).map (Identifier.render ∘ Prod.snd) := by
    rw [← List.map_map, ← List.map_map,
      List.map_fst_zip (Nat.le_of_eq sameLength),
      List.map_snd_zip (Nat.le_of_eq sameLength.symm)]
    exact sameNames
  exact List.map_inj_left.mp paired

theorem append_parameters (reread : RereadBinders pairs)
    {parameters originals : List Identifier}
    (sameNames : parameters.map Identifier.name =
      originals.map Identifier.render)
    (nodup : originals.Nodup)
    (positive : ∀ original ∈ originals, 0 < original.number)
    (numbered : ∀ parameter ∈ parameters, parameter.number =
      ((pairs.map Prod.fst).map Identifier.name).count parameter.name + 1) :
    RereadBinders ((parameters.zip originals).reverse ++ pairs) := by
  have distinct : (parameters.reverse.map Identifier.name).Nodup := by
    rw [List.map_reverse, sameNames]
    refine (List.reverse_perm _).nodup_iff.mpr ?_
    exact Identifier.nodup_map_render nodup
  constructor
  · rw [map_fst_append_zip (length_eq_of_names sameNames)]
    refine StackedOn.append (.of_distinct ?_ distinct) reread.stacked
    intro parameter member
    rw [List.append_nil]
    exact numbered parameter (List.mem_reverse.mp member)
  · intro pair member
    rcases List.mem_append.mp member with inner | outer
    · exact name_eq_of_mem_zip sameNames pair (List.mem_reverse.mp inner)
    · exact reread.name_eq pair outer
  · intro pair member
    rcases List.mem_append.mp member with inner | outer
    · exact positive pair.2
        (List.of_mem_zip (List.mem_reverse.mp inner)).2
    · exact reread.number_pos pair outer

end RereadBinders

/-- A numbered term with the tree of a written term is the original term, up
to the choice of bound identifiers and with free ones as they are written. -/
theorem alphaEquivalentUnder_asWrittenUnder
    {pairs : List (Identifier × Identifier)} {original reread : Term}
    (binders : RereadBinders pairs) (legible : original.Legible)
    (sameTree : reread.skeleton = original.written)
    (numbered :
      reread.NumberedUnder ((pairs.map Prod.fst).map Identifier.name)) :
    alphaEquivalentUnder pairs reread
      (original.asWrittenUnder (pairs.map Prod.snd)) = true := by
  induction original generalizing reread pairs with
  | var identifier =>
      cases reread with
      | app operator operand =>
          cases sameTree
      | lam parameters body =>
          cases sameTree
      | var found =>
          obtain ⟨name, number⟩ := found
          injection sameTree with sameName
          subst sameName
          have sameNumber : number =
              ((pairs.map Prod.fst).map Identifier.name).count
                identifier.render := numbered
          subst sameNumber
          by_cases bound : identifier ∈ pairs.map Prod.snd
          · rw [asWrittenUnder, if_pos bound]
            exact binders.sameVariable_of_mem bound
          · rw [asWrittenUnder, if_neg bound]
            exact binders.sameVariable_of_not_mem bound
  | app operator operand operatorHypothesis operandHypothesis =>
      cases reread with
      | var identifier =>
          cases sameTree
      | lam parameters body =>
          cases sameTree
      | app rereadOperator rereadOperand =>
          injection sameTree with sameOperator sameOperand
          rw [asWrittenUnder, alphaEquivalentUnder, Bool.and_eq_true]
          exact
            ⟨operatorHypothesis binders legible.operator sameOperator
                numbered.1,
              operandHypothesis binders legible.operand sameOperand
                numbered.2⟩
  | lam originals body inductionHypothesis =>
      cases reread with
      | var identifier =>
          cases sameTree
      | app operator operand =>
          cases sameTree
      | lam parameters rereadBody =>
          injection sameTree with sameNames sameBody
          have inThisTerm :
              originals ∈ (lam originals body).parameterLists :=
            List.mem_cons_self ..
          have extended : RereadBinders
              ((parameters.zip originals).reverse ++ pairs) :=
            binders.append_parameters sameNames
              (legible.parameters_nodup originals inThisTerm)
              legible.number_pos_of_mem_parameters numbered.1
          have sameLength : parameters.length = originals.length :=
            RereadBinders.length_eq_of_names sameNames
          have bodyNumbered := numbered.2
          rw [← List.map_append, ← RereadBinders.map_fst_append_zip sameLength]
            at bodyNumbered
          have bodyEquivalent :=
            inductionHypothesis extended legible.body sameBody bodyNumbered
          rw [asWrittenUnder, alphaEquivalentUnder, sameLength,
            beq_self_eq_true, Bool.true_and,
            ← RereadBinders.map_snd_append_zip sameLength]
          exact bodyEquivalent

end Term

namespace Parser

open Grammar (Sentence)

/-- A parser is started in front of a source text that spells a sentence. -/
theorem exists_faces_of_spells (log : Log) {source : String}
    {tokens : List Token} {tree : Skeleton}
    (spells : Scanner.Spells source.toList tokens)
    (sentence : Sentence tokens tree) :
    ∃ started scanner, start log source = .ok () started ∧
      started.Faces tree scanner ∧ scanner.lookahead = .endOfFile := by
  obtain ⟨first, later, rfl⟩ :=
    List.exists_cons_of_ne_nil (Grammar.ne_nil_of_derives sentence)
  obtain ⟨scanner, reads, atEnd⟩ := spells.exists_reads
  cases reads with
  | @token _ between _ _ read rest =>
      have readFirst :
          (Parser.mk (.ofSource source) .root false log).scanner.advance =
            .ok () between := read
      obtain ⟨started, begun, rfl⟩ := exists_advance_of_scanner readFirst
      have shown :
          started.scanner.lookahead :: (later ++ [Token.endOfFile]) =
            (started.scanner.lookahead :: later) ++ [.endOfFile] := rfl
      obtain ⟨passes, _⟩ := Scanner.Passes.of_reads rest shown
      exact ⟨started, scanner, begun,
        ⟨[], _, nofun, sentence, passes⟩, atEnd⟩

end Parser

namespace Term

/-- The written form of a legible term is read as a whole, and what is read is
the term up to the choice of bound identifiers, with free identifiers as they
are written. -/
theorem parse_render_alphaEquivalent (log : Log) {term : Term}
    (legible : term.Legible) :
    ∃ started reread after,
      Parser.start log term.render = .ok () started ∧
      started.parse = .ok reread after ∧
      (∃ left, after.parse = .error .endOfInput left) ∧
      reread.alphaEquivalent term.asWritten = true := by
  obtain ⟨started, scanner, begun, faces, atEnd⟩ :=
    Parser.exists_faces_of_spells log (spells_render legible.readable)
      (sentence_tokens legible)
  have ends : scanner.lookahead.endsTerm = true := by
    rw [atEnd]
    rfl
  obtain ⟨reread, after, parsed, sameTree, rfl⟩ :=
    Parser.exists_parse_of_faces faces ends
  refine ⟨started, reread, after, begun, parsed, ?_, ?_⟩
  · exact ⟨after, Parser.parse_of_endOfFile atEnd⟩
  · exact alphaEquivalentUnder_asWrittenUnder .nil legible sameTree
      (Parser.numbered_of_parse parsed)

/-- A term with two equal binders, one inside the other, is read again. -/
theorem equal_binders_reread :
    ∃ term : Term, term =
        .lam [⟨"x", 1⟩] (.lam [⟨"x", 1⟩]
          (.app (.var ⟨"x", 1⟩) (.var ⟨"y", 3⟩))) ∧
      term.Legible ∧
      ∃ started reread after,
        Parser.start .silent term.render = .ok () started ∧
        started.parse = .ok reread after ∧
        (∃ left, after.parse = .error .endOfInput left) ∧
        reread.alphaEquivalent term.asWritten = true := by
  refine ⟨_, rfl, ?_⟩
  have legible : Term.Legible
      (.lam [⟨"x", 1⟩] (.lam [⟨"x", 1⟩]
        (.app (.var ⟨"x", 1⟩) (.var ⟨"y", 3⟩)))) := by
    constructor
    · intro identifier member character inName
      have known : identifier = ⟨"x", 1⟩ ∨ identifier = ⟨"y", 3⟩ := by
        simpa [identifiers, binders, parameterLists, occurrences] using member
      rcases known with rfl | rfl
      · cases List.mem_singleton.mp (show character ∈ ['x'] from inName)
        decide
      · cases List.mem_singleton.mp (show character ∈ ['y'] from inName)
        decide
    · decide
    · decide
    · decide
  exact ⟨legible, parse_render_alphaEquivalent .silent legible⟩

end Term

end NumberedLambda
