import NumberedLambda.Parser.Sequence

/-!
# Calls of a parser

A parser can be asked for its next term in two ways, and they may be mixed at
will: `parse` reads on wherever the parser stands, and `next` treats the terms
as a sequence that ends. A parser is reached from a source text if calls lead
to it from the start.
-/

namespace NumberedLambda

/-- The two ways to ask a parser for a term. -/
inductive Call where
  | parse
  | next
deriving DecidableEq, Repr

namespace Parser

/-- What a call answers, and the parser after it. Only `next` can answer with
nothing. -/
def answer (parser : Parser) :
    Call → Option (Except ParseError Term) × Parser
  | .parse =>
      match parser.parse with
      | .ok term after => (some (.ok term), after)
      | .error error left => (some (.error error), left)
  | .next => parser.next

/-- The parser after a number of calls. -/
def after (parser : Parser) (calls : List Call) : Parser :=
  calls.foldl (fun current call => (current.answer call).2) parser

/-- A parser that calls lead to from the start of a source text. -/
def ReachedFrom (source : String) (parser : Parser) : Prop :=
  ∃ log started calls,
    start log source = .ok () started ∧ started.after calls = parser

@[simp]
theorem after_nil (parser : Parser) : parser.after [] = parser :=
  rfl

theorem after_cons (parser : Parser) (call : Call) (later : List Call) :
    parser.after (call :: later) = (parser.answer call).2.after later :=
  rfl

theorem after_append (parser : Parser) (first last : List Call) :
    parser.after (first ++ last) = (parser.after first).after last := by
  simp [after]

/-- Further calls lead to a parser that is reached as well. -/
theorem ReachedFrom.after {source : String} {parser : Parser}
    (reached : ReachedFrom source parser) (calls : List Call) :
    ReachedFrom source (parser.after calls) := by
  obtain ⟨log, started, earlier, begun, rfl⟩ := reached
  exact ⟨log, started, earlier ++ calls, begun,
    after_append started earlier calls⟩

/-- A call does not give back anything that has been read. -/
theorem remaining_answer_le (parser : Parser) (call : Call) :
    (parser.answer call).2.remaining ≤ parser.remaining := by
  have bound := parser.weight_parse_le
  cases call with
  | parse =>
      simp only [answer]
      split
      · rename_i term after parsed
        rw [parsed] at bound
        exact Nat.le_of_succ_le bound
      · rename_i error left parsed
        rw [parsed] at bound
        exact bound
  | next =>
      simp only [answer, next]
      split
      · exact Nat.le_refl _
      · split
        · rename_i term after parsed
          rw [parsed] at bound
          exact Nat.le_of_succ_le bound
        · rename_i after parsed
          rw [parsed] at bound
          exact bound
        · rename_i error after other parsed
          rw [parsed] at bound
          exact bound

end Parser

end NumberedLambda
