import NumberedLambda.Parser.Sequence

/-!
# Iteration over the terms of a text

Iteration asks for the next element until there is none. It yields the terms
of the text, and one error as its last element if the text cannot be read to
its end.
-/

namespace NumberedLambda

namespace Parser

theorem next_of_finished {parser : Parser}
    (finished : parser.finished = true) : parser.next = (none, parser) := by
  rw [next, if_pos finished]

theorem next_of_ok {parser after : Parser} {term : Term}
    (unfinished : parser.finished = false)
    (parsed : parser.parse = .ok term after) :
    parser.next = (some (.ok term), after) := by
  simp [next, unfinished, parsed]

theorem next_of_endOfInput {parser left : Parser}
    (unfinished : parser.finished = false)
    (parsed : parser.parse = .error .endOfInput left) :
    parser.next = (none, { left with finished := true }) := by
  simp [next, unfinished, parsed]

theorem next_of_error {parser left : Parser} {error : ParseError}
    (unfinished : parser.finished = false) (noEnd : error ≠ .endOfInput)
    (parsed : parser.parse = .error error left) :
    parser.next = (some (.error error), { left with finished := true }) := by
  cases error <;> simp_all [next]

/-- A bound on the number of elements that are still to come. -/
def toCome (parser : Parser) : Nat :=
  if parser.finished then 0 else parser.remaining + 1

theorem toCome_le (parser : Parser) :
    parser.toCome ≤ parser.remaining + 1 := by
  unfold toCome
  split
  · exact Nat.zero_le _
  · exact Nat.le_refl _

/-- Every element that is yielded leaves less to come. -/
theorem toCome_lt_of_next {parser after : Parser}
    {item : Except ParseError Term}
    (found : parser.next = (some item, after)) :
    after.toCome < parser.toCome := by
  cases finished : parser.finished with
  | true =>
      rw [next_of_finished finished] at found
      cases found
  | false =>
      have full : parser.toCome = parser.remaining + 1 := by
        simp [toCome, finished]
      rw [full]
      cases parsed : parser.parse with
      | ok term left =>
          rw [next_of_ok finished parsed] at found
          cases found
          have shorter := remaining_lt_of_parse parsed
          have bound := after.toCome_le
          omega
      | error error left =>
          by_cases atEnd : error = .endOfInput
          · subst atEnd
            rw [next_of_endOfInput finished parsed] at found
            cases found
          · rw [next_of_error finished atEnd parsed] at found
            cases found
            exact Nat.succ_pos parser.remaining

/-- What iteration yields: the terms of the text, and the error after them if
there is one. -/
def items (parser : Parser) : List (Except ParseError Term) :=
  match _ : parser.next with
  | (none, _) => []
  | (some item, after) => item :: after.items
termination_by parser.toCome
decreasing_by exact toCome_lt_of_next ‹_›

theorem items_of_none {parser after : Parser}
    (ended : parser.next = (none, after)) : parser.items = [] := by
  rw [items]
  split <;> rename_i found <;> cases ended.symm.trans found
  rfl

theorem items_of_some {parser after : Parser}
    {item : Except ParseError Term}
    (found : parser.next = (some item, after)) :
    parser.items = item :: after.items := by
  rw [items]
  split <;> rename_i same <;> cases found.symm.trans same
  rfl

end Parser

/-- What iteration yields after the attempt to start: if the first token cannot
be read, nothing but that error. -/
def Answer.items : Answer Unit → List (Except ParseError Term)
  | .ok () parser => parser.items
  | .error error _ => [.error error]

end NumberedLambda
