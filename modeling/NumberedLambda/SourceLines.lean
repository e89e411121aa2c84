import NumberedLambda.ParseError

/-!
# The lines of a source text

A source text consists of lines with a newline between every two of them. A
text without any newline is a single line, perhaps an empty one. What ends a
line inside a text is a newline, what ends the last one is the end of the
text; apart from this an error does not tell where its line stands.
-/

namespace NumberedLambda

/-- The lines of a source text. -/
def sourceLines (source : String) : List String :=
  (source.toList.splitOn '\n').map String.ofList

/-- The number of newlines in a source text. -/
def newLineCount (source : String) : Nat :=
  source.toList.count '\n'

namespace ParseError

/-- An error with another token in place of the one that was found. -/
def mapFound (change : Token → Token) : ParseError → ParseError
  | .missingParameter found => .missingParameter (change found)
  | .expectedDot found => .expectedDot (change found)
  | .expectedBody found => .expectedBody (change found)
  | .expectedParenthesized found => .expectedParenthesized (change found)
  | .expectedClosing found => .expectedClosing (change found)
  | .unexpectedToken found => .unexpectedToken (change found)
  | error => error

/-- The error of a line, as it is reported when another line follows. -/
def beforeNextLine (error : ParseError) : ParseError :=
  error.mapFound fun found =>
    if found = .endOfFile then .newLine else found

end ParseError

/-- There is one part more than there are separators. -/
theorem length_splitOn (separator : Char) (text : List Char) :
    (text.splitOn separator).length = text.count separator + 1 := by
  induction text with
  | nil =>
      rfl
  | cons character later inductionHypothesis =>
      rw [List.splitOn_cons_eq_if_modifyHead]
      by_cases atSeparator : character = separator
      · simp [atSeparator, inductionHypothesis]
      · rw [if_neg (mt beq_iff_eq.mp atSeparator), List.length_modifyHead,
          inductionHypothesis, List.count_cons_of_ne atSeparator]

/-- No part contains the separator. -/
theorem not_mem_of_mem_splitOn {separator : Char} {text part : List Char}
    (member : part ∈ text.splitOn separator) : separator ∉ part := by
  induction text generalizing part with
  | nil =>
      rw [List.splitOn_nil, List.mem_singleton] at member
      rw [member]
      exact List.not_mem_nil
  | cons character later inductionHypothesis =>
      rw [List.splitOn_cons_eq_if_modifyHead] at member
      split at member
      · rcases List.mem_cons.mp member with rfl | laterMember
        · exact List.not_mem_nil
        · exact inductionHypothesis laterMember
      · rename_i noSeparator
        cases parts : later.splitOn separator with
        | nil =>
            exact absurd parts (List.splitOn_ne_nil separator later)
        | cons first others =>
            rw [parts] at member inductionHypothesis
            rcases List.mem_cons.mp member with rfl | laterMember
            · have different : separator ≠ character := fun same =>
                noSeparator (beq_iff_eq.mpr same.symm)
              exact List.not_mem_cons_of_ne_of_not_mem different
                (inductionHypothesis (List.mem_cons_self ..))
            · exact inductionHypothesis
                (List.mem_cons_of_mem first laterMember)

/-- There is one line more than there are newlines. -/
theorem length_sourceLines (source : String) :
    (sourceLines source).length = newLineCount source + 1 := by
  rw [sourceLines, List.length_map, length_splitOn, newLineCount]

/-- No line contains a newline. -/
theorem not_mem_of_mem_sourceLines {source line : String}
    (member : line ∈ sourceLines source) : '\n' ∉ line.toList := by
  obtain ⟨part, partMember, rfl⟩ := List.mem_map.mp member
  rw [String.toList_ofList]
  exact not_mem_of_mem_splitOn partMember

/-- A source text is its lines with newlines between them. -/
theorem intercalate_sourceLines (source : String) :
    ['\n'].intercalate ((sourceLines source).map String.toList) =
      source.toList := by
  rw [sourceLines, List.map_map]
  have undone : String.toList ∘ String.ofList = id :=
    funext fun text => String.toList_ofList
  rw [undone, List.map_id, List.intercalate_splitOn]

end NumberedLambda
