import Mathlib.Data.List.Induction
import NumberedLambda.ParseError
import NumberedLambda.Proofs.Parsing.Viability

/-!
# Which syntax error is reported

A syntax error is determined by the tokens that have been read and the one
that was found after them. What was read decides what is due next, and each
thing that can be due has a complaint of its own about a token that cannot
come next.

What is due can be seen at the end of what has been read: behind a backslash,
a dot or an opening parenthesis, at the end of an unfinished list of
parameters, and everywhere else, where an operand or a closing parenthesis is
due.
-/

namespace NumberedLambda

open Grammar
open Grammar.Progress (Advances)

namespace Grammar

/-- A list of parameters that has begun and not ended: a backslash and at
least one name. -/
def UnfinishedParameters (tokens : List Token) : Prop :=
  ∃ before names, names ≠ [] ∧
    tokens = before ++ .backslash :: names.map Token.identifier

/-- The error for a token that cannot continue a list of parameters. The only
name that cannot is one that stands in the list already. -/
def parameterComplaint (names : List String) (found : Token) : ParseError :=
  if names = [] then
    .missingParameter found
  else
    match found with
    | .identifier name => .duplicateParameter name
    | _ => .expectedDot found

theorem parameterComplaint_identifier {names : List String}
    (nonempty : names ≠ []) (name : String) :
    parameterComplaint names (.identifier name) =
      .duplicateParameter name :=
  if_neg nonempty

theorem parameterComplaint_of_ne {names : List String} {found : Token}
    (nonempty : names ≠ []) (noName : ∀ name, found ≠ .identifier name) :
    parameterComplaint names found = .expectedDot found := by
  rw [parameterComplaint, if_neg nonempty]
  exact noName

/-- The error for a token that cannot come next. -/
def Due.complaint : Due → Token → ParseError
  | .expression .sentence => .unexpectedToken
  | .expression .body => .expectedBody
  | .expression .parentheses => .expectedParenthesized
  | .parameter names => parameterComplaint names
  | .operand => .expectedClosing

end Grammar

namespace ParseError

/-- The token at which a syntax error was found. A name that is declared
twice is found as an identifier. -/
def found? : ParseError → Option Token
  | .missingParameter found => some found
  | .duplicateParameter name => some (.identifier name)
  | .expectedDot found => some found
  | .expectedBody found => some found
  | .expectedParenthesized found => some found
  | .expectedClosing found => some found
  | .unexpectedToken found => some found
  | .notFound => none
  | .endOfInput => none
  | .lexical _ => none

/-- An error is the right one for the token `found` after `consumed`: it
carries this token, and which of the errors it is depends on the end of
`consumed`. -/
structure Explains (error : ParseError) (consumed : List Token)
    (found : Token) : Prop where
  found_eq : error.found? = some found
  unexpectedToken_iff :
    (∃ token, error = .unexpectedToken token) ↔ consumed = []
  missingParameter_iff :
    (∃ token, error = .missingParameter token) ↔
      consumed.getLast? = some .backslash
  expectedBody_iff :
    (∃ token, error = .expectedBody token) ↔
      consumed.getLast? = some .dot
  expectedParenthesized_iff :
    (∃ token, error = .expectedParenthesized token) ↔
      consumed.getLast? = some .leftParen
  duplicateParameter_iff :
    (∃ name, error = .duplicateParameter name) ↔
      UnfinishedParameters consumed ∧ ∃ name, found = .identifier name
  expectedDot_iff :
    (∃ token, error = .expectedDot token) ↔
      UnfinishedParameters consumed ∧ ∀ name, found ≠ .identifier name
  expectedClosing_iff :
    (∃ token, error = .expectedClosing token) ↔
      consumed ≠ [] ∧
        consumed.getLast? ∉ [some .backslash, some .dot, some .leftParen] ∧
        ¬ UnfinishedParameters consumed

end ParseError

namespace Grammar

/-! ## Lists of parameters -/

theorem due_of_after_names {depth : Nat} {names more : List String}
    {final : Progress}
    (made : Progress.after ⟨depth, .parameter names⟩
      (more.map Token.identifier) = some final) :
    final.due = .parameter (names ++ more) := by
  induction more generalizing names with
  | nil =>
      cases made
      exact congrArg Due.parameter (List.append_nil names).symm
  | cons name more inductionHypothesis =>
      obtain ⟨next, advances, rest⟩ := Progress.exists_of_after_cons made
      cases advances with
      | name _ takes =>
          cases takes
      | parameter fresh =>
          rw [List.append_cons]
          exact inductionHypothesis rest

theorem exists_before_of_parameter {tokens : List Token} {depth : Nat}
    {names : List String}
    (made : Progress.start.after tokens = some ⟨depth, .parameter names⟩) :
    ∃ before, tokens = before ++ .backslash :: names.map Token.identifier := by
  -- The last token decides whether the list has just begun or goes on.
  induction tokens using List.reverseRecOn generalizing depth names with
  | nil =>
      cases made
  | append_singleton tokens token inductionHypothesis =>
      obtain ⟨between, first, last⟩ := Progress.exists_of_after_append made
      obtain ⟨next, advances, finished⟩ := Progress.exists_of_after_cons last
      cases finished
      cases advances with
      | abstraction takes =>
          exact ⟨tokens, rfl⟩
      | @parameter _ names name fresh =>
          obtain ⟨before, rfl⟩ := inductionHypothesis first
          exact ⟨before, by simp⟩

/-- A list of parameters is unfinished where more names are due after the
first one. -/
theorem unfinishedParameters_iff {tokens : List Token} {progress : Progress}
    (made : Progress.start.after tokens = some progress) :
    UnfinishedParameters tokens ↔
      ∃ names, names ≠ [] ∧ progress.due = .parameter names := by
  constructor
  · rintro ⟨before, names, nonempty, rfl⟩
    obtain ⟨between, _, list⟩ := Progress.exists_of_after_append made
    obtain ⟨next, advances, rest⟩ := Progress.exists_of_after_cons list
    cases advances with
    | abstraction takes =>
        exact ⟨names, nonempty, due_of_after_names rest⟩
  · obtain ⟨depth, due⟩ := progress
    rintro ⟨names, nonempty, rfl⟩
    obtain ⟨before, shape⟩ := exists_before_of_parameter made
    exact ⟨before, names, nonempty, shape⟩

/-! ## The end of what has been read -/

/-- Where an expression or the first parameter is due can be told from the
last token. -/
theorem due_iff_getLast? {tokens : List Token} {progress : Progress}
    (made : Progress.start.after tokens = some progress) :
    (progress.due = .expression .sentence ↔ tokens = []) ∧
      (progress.due = .expression .body ↔
        tokens.getLast? = some .dot) ∧
      (progress.due = .expression .parentheses ↔
        tokens.getLast? = some .leftParen) ∧
      (progress.due = .parameter [] ↔
        tokens.getLast? = some .backslash) := by
  rcases tokens.eq_nil_or_concat with rfl | ⟨before, last, rfl⟩
  · cases made
    simp [Progress.start]
  · rw [List.concat_eq_append] at made ⊢
    obtain ⟨between, _, lastStep⟩ := Progress.exists_of_after_append made
    obtain ⟨next, advances, finished⟩ :=
      Progress.exists_of_after_cons lastStep
    cases finished
    cases advances <;> simp

/-! ## Complaints -/

theorem found?_complaint (due : Due) (found : Token) :
    (due.complaint found).found? = some found := by
  cases due with
  | expression place =>
      cases place <;> rfl
  | parameter names =>
      by_cases nothing : names = [] <;> cases found <;>
        simp [Due.complaint, parameterComplaint, ParseError.found?, nothing]
  | operand =>
      rfl

/-- The complaint about the token after what has been read is the right
error. -/
theorem explains_complaint {consumed : List Token} {progress : Progress}
    (made : Progress.start.after consumed = some progress) (found : Token) :
    (progress.due.complaint found).Explains consumed found := by
  obtain ⟨atStart, behindDot, behindParenthesis, behindBackslash⟩ :=
    due_iff_getLast? made
  have unfinished := unfinishedParameters_iff made
  have carries := found?_complaint progress.due found
  -- Each condition on what has been read says what is due, and each thing that
  -- is due has one kind of complaint.
  cases due : progress.due with
  | expression place =>
      cases place <;> constructor <;> simp_all [Due.complaint]
  | parameter names =>
      by_cases nothing : names = []
      · constructor <;> simp_all [Due.complaint, parameterComplaint]
      · cases found <;> constructor <;>
          simp_all [Due.complaint, parameterComplaint]
  | operand =>
      constructor <;> simp_all [Due.complaint]

end Grammar

end NumberedLambda
