import NumberedLambda.Grammar
import NumberedLambda.Proofs.RoundTrip.WrittenName
import NumberedLambda.Proofs.Scanning.Spelling

/-!
# The tokens of a written term

The written form of a term spells tokens that are a sentence of the grammar.
The sentence stands for the tree of the term in which every identifier has
become a name that shows its number. Parentheses are where the grammar needs
them: around an abstraction in operator position, and around every operand
that is no variable.
-/

namespace NumberedLambda

/-- Tokens, put in parentheses if the condition holds. -/
def Token.parenthesizedIf (condition : Bool) (tokens : List Token) :
    List Token :=
  if condition then .leftParen :: (tokens ++ [.rightParen]) else tokens

namespace Term

open Character
open Scanner (Spells)
open Grammar (Derives Phrase Sentence)

/-- A term whose written form can be read again: its names can stand in a
source text, its lists of parameters are nonempty and free of repetitions, and
the numbers of its binders are not that of a free name. -/
structure Legible (term : Term) : Prop where
  readable : term.Readable
  parameters_ne_nil : ∀ parameters ∈ term.parameterLists, parameters ≠ []
  parameters_nodup : ∀ parameters ∈ term.parameterLists, parameters.Nodup
  number_pos : ∀ binder ∈ term.binders, 0 < binder.number

namespace Legible

theorem of_part {whole part : Term} (legible : whole.Legible)
    (lists : ∀ parameters ∈ part.parameterLists,
      parameters ∈ whole.parameterLists)
    (occurring : ∀ identifier ∈ part.occurrences,
      identifier ∈ whole.occurrences) : part.Legible := by
  have binderOfWhole : ∀ binder ∈ part.binders, binder ∈ whole.binders := by
    intro binder member
    obtain ⟨parameters, inPart, inParameters⟩ := List.mem_flatten.mp member
    exact List.mem_flatten.mpr
      ⟨parameters, lists parameters inPart, inParameters⟩
  constructor
  · intro identifier member
    refine legible.readable identifier (List.mem_append.mpr ?_)
    exact (List.mem_append.mp member).imp (binderOfWhole identifier)
      (occurring identifier)
  · intro parameters member
    exact legible.parameters_ne_nil parameters (lists parameters member)
  · intro parameters member
    exact legible.parameters_nodup parameters (lists parameters member)
  · intro binder member
    exact legible.number_pos binder (binderOfWhole binder member)

theorem operator {operator operand : Term}
    (legible : (app operator operand).Legible) : operator.Legible :=
  legible.of_part (fun _ => List.mem_append_left _)
    (fun _ => List.mem_append_left _)

theorem operand {operator operand : Term}
    (legible : (app operator operand).Legible) : operand.Legible :=
  legible.of_part (fun _ => List.mem_append_right _)
    (fun _ => List.mem_append_right _)

theorem body {parameters : List Identifier} {body : Term}
    (legible : (lam parameters body).Legible) : body.Legible :=
  legible.of_part (fun _ => List.mem_cons_of_mem _) (fun _ member => member)

theorem number_pos_of_mem_parameters {parameters : List Identifier}
    {body : Term} (legible : (lam parameters body).Legible) :
    ∀ parameter ∈ parameters, 0 < parameter.number := by
  intro parameter member
  refine legible.number_pos parameter ?_
  simp [binders, parameterLists, member]

end Legible

/-! ## Spelling -/

/-- The tokens that a term is written with. -/
def tokens : Term → List Token
  | .var identifier => [.identifier identifier.render]
  | .app operator operand =>
      Token.parenthesizedIf operator.isLam operator.tokens ++
        Token.parenthesizedIf (!operand.isVar) operand.tokens
  | .lam parameters body =>
      .backslash ::
        ((parameters.map Identifier.render).map Token.identifier ++
          .dot :: body.tokens)

theorem parenthesizedTokens_ne_nil {condition : Bool} {tokens : List Token}
    (something : tokens ≠ []) :
    Token.parenthesizedIf condition tokens ≠ [] := by
  unfold Token.parenthesizedIf
  split
  · exact List.cons_ne_nil _ _
  · exact something

theorem tokens_ne_nil (term : Term) : term.tokens ≠ [] := by
  induction term with
  | var identifier =>
      exact List.cons_ne_nil _ _
  | app operator operand operatorHypothesis operandHypothesis =>
      exact List.append_ne_nil_of_left_ne_nil
        (parenthesizedTokens_ne_nil operatorHypothesis) _
  | lam parameters body inductionHypothesis =>
      exact List.cons_ne_nil _ _

private theorem isName_render {identifier : Identifier}
    (readable : identifier.Readable) : Scanner.IsName identifier.render where
  ne_nil := identifier.toList_render_ne_nil
  allowed := readable.isIdentifierCharacter_of_mem_render

private theorem spells_parenthesizedIf {text : String}
    {tokens : List Token} (condition : Bool)
    (spells : Spells text.toList tokens) :
    Spells (parenthesizedIf condition text).toList
      (Token.parenthesizedIf condition tokens) := by
  cases condition with
  | false =>
      exact spells
  | true =>
      exact spells.parenthesized

theorem spells_render {term : Term} (readable : term.Readable) :
    Spells term.render.toList term.tokens := by
  induction term with
  | var identifier =>
      exact .name (isName_render (readable_var.mp readable))
  | app operator operand operatorHypothesis operandHypothesis =>
      obtain ⟨operatorReadable, operandReadable⟩ := readable_app.mp readable
      have first := spells_parenthesizedIf operator.isLam
        (operatorHypothesis operatorReadable)
      have last := spells_parenthesizedIf (!operand.isVar)
        (operandHypothesis operandReadable)
      exact .juxtaposed (parenthesizedTokens_ne_nil operand.tokens_ne_nil)
        first last
  | lam parameters body inductionHypothesis =>
      obtain ⟨allReadable, bodyReadable⟩ := readable_lam.mp readable
      refine .abstraction ?_ body.tokens_ne_nil
        (inductionHypothesis bodyReadable)
      intro name member
      obtain ⟨parameter, inParameters, rfl⟩ := List.mem_map.mp member
      exact isName_render (allReadable parameter inParameters)

/-! ## Derivation -/

/-- The tree of a term in which every identifier is the name by which it is
written. -/
def written : Term → Skeleton
  | .var identifier => .var identifier.render
  | .app operator operand => .app operator.written operand.written
  | .lam parameters body =>
      .lam (parameters.map Identifier.render) body.written

/-- The kind of phrase that a term is written as. -/
def phrase : Term → Phrase
  | .lam _ _ => .abstraction
  | _ => .atoms

private theorem sentence_of_derives_phrase {term : Term}
    {tokens : List Token} {tree : Skeleton}
    (derivation : Derives term.phrase tokens tree) :
    Sentence tokens tree := by
  cases term with
  | var identifier =>
      exact .application derivation
  | app operator operand =>
      exact .application derivation
  | lam parameters body =>
      exact .bareAbstraction derivation

private theorem derives_operator {operator : Term}
    {tokens : List Token} {tree : Skeleton}
    (derivation : Derives operator.phrase tokens tree) :
    Derives .atoms (Token.parenthesizedIf operator.isLam tokens) tree := by
  cases operator with
  | var identifier =>
      exact derivation
  | app first second =>
      exact derivation
  | lam parameters body =>
      exact .oneAtom (.parenthesized (.bareAbstraction derivation))

private theorem derives_operand {operand : Term}
    (derivation : Derives operand.phrase operand.tokens operand.written) :
    Derives .atom (Token.parenthesizedIf (!operand.isVar) operand.tokens)
      operand.written := by
  cases operand with
  | var identifier =>
      exact .name identifier.render
  | app first second =>
      exact .parenthesized (sentence_of_derives_phrase derivation)
  | lam parameters body =>
      exact .parenthesized (sentence_of_derives_phrase derivation)

private theorem derives_tokens {term : Term} (legible : term.Legible) :
    Derives term.phrase term.tokens term.written := by
  induction term with
  | var identifier =>
      exact .oneAtom (.name identifier.render)
  | app operator operand operatorHypothesis operandHypothesis =>
      exact .moreAtoms
        (derives_operator (operatorHypothesis legible.operator))
        (derives_operand (operandHypothesis legible.operand))
  | lam parameters body inductionHypothesis =>
      have inThisTerm : parameters ∈ (lam parameters body).parameterLists :=
        List.mem_cons_self ..
      have someNames : parameters.map Identifier.render ≠ [] := by
        rw [ne_eq, List.map_eq_nil_iff]
        exact legible.parameters_ne_nil parameters inThisTerm
      have distinct : (parameters.map Identifier.render).Nodup :=
        Identifier.nodup_map_render
          (legible.parameters_nodup parameters inThisTerm)
      exact .abstraction someNames distinct
        (sentence_of_derives_phrase (inductionHypothesis legible.body))

/-- The tokens of a legible term are a sentence. -/
theorem sentence_tokens {term : Term} (legible : term.Legible) :
    Sentence term.tokens term.written :=
  sentence_of_derives_phrase (derives_tokens legible)

end Term

end NumberedLambda
