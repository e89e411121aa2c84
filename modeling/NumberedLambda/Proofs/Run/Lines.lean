import NumberedLambda.Proofs.Run.Iteration

/-!
# Lines are independent of each other

A run over a program writes what the runs over its lines write, line by line,
up to the first line whose own run fails, and ends with the error of that
line. Neither the scopes of a line nor errors behind it have any influence.
-/

namespace NumberedLambda

open Character

/-- The error of a run over a line, as it is reported when another line
follows. -/
def RunError.beforeNextLine : RunError → RunError
  | .parse error => .parse error.beforeNextLine
  | error => error

namespace Run

variable {mode : Mode} {maxSteps : Nat} {log : Log}

theorem result_eq_ok_iff {source : String} :
    (program mode maxSteps .unlimited log source).result = .ok () ↔
      (sourceTerms source).2 = none := by
  rw [(program_unlimited mode maxSteps log source).2, Reading.result]
  cases (sourceTerms source).2 <;> simp

theorem result_eq_error_iff {source : String} {error : RunError} :
    (program mode maxSteps .unlimited log source).result = .error error ↔
      ∃ cause, error = .parse cause ∧
        (sourceTerms source).2 = some cause := by
  rw [(program_unlimited mode maxSteps log source).2, Reading.result]
  cases (sourceTerms source).2 with
  | none =>
      simp
  | some cause =>
      simp [eq_comm]

/-- The runs over lines write what is read of the lines. -/
theorem flatMap_bytes (lines : List String) :
    (lines.flatMap fun line =>
        (program mode maxSteps .unlimited log line).sink.bytes) =
      ((lines.map sourceTerms).flatMap Prod.fst).flatMap
        (outputBytes mode maxSteps) := by
  induction lines with
  | nil =>
      rfl
  | cons line later inductionHypothesis =>
      rw [List.flatMap_cons, inductionHypothesis,
        (program_unlimited mode maxSteps log line).1, List.map_cons,
        List.flatMap_cons, List.flatMap_append]

theorem succeed_iff {lines : List String} :
    (∀ reading ∈ lines.map sourceTerms, reading.2 = none) ↔
      ∀ line ∈ lines,
        (program mode maxSteps .unlimited log line).result = .ok () := by
  simp only [List.forall_mem_map, result_eq_ok_iff]

theorem result_eq_ok_iff_lines {source : String} :
    (program mode maxSteps .unlimited log source).result = .ok () ↔
      ∀ line ∈ sourceLines source,
        (program mode maxSteps .unlimited log line).result = .ok () := by
  rw [result_eq_ok_iff, sourceTerms_eq_ofLines,
    Reading.ofLines_eq_none_iff, succeed_iff]

/-- Where no line fails, the output is that of all lines. -/
theorem bytes_of_succeed {source : String}
    (succeed : ∀ line ∈ sourceLines source,
      (program mode maxSteps .unlimited log line).result = .ok ()) :
    (program mode maxSteps .unlimited log source).sink.bytes =
      (sourceLines source).flatMap fun line =>
        (program mode maxSteps .unlimited log line).sink.bytes := by
  have readings := Reading.ofLines_append [] (succeed_iff.mpr succeed)
  rw [List.append_nil] at readings
  rw [(program_unlimited mode maxSteps log source).1,
    sourceTerms_eq_ofLines, readings, flatMap_bytes]
  exact congrArg _ (List.append_nil _)

/-- Where a line fails, the output is that of the lines up to there. -/
theorem run_of_failure {source : String} {earlier later : List String}
    {line : String} {error : RunError}
    (shape : sourceLines source = earlier ++ line :: later)
    (succeed : ∀ other ∈ earlier,
      (program mode maxSteps .unlimited log other).result = .ok ())
    (failed : (program mode maxSteps .unlimited log line).result =
      .error error) :
    (program mode maxSteps .unlimited log source).sink.bytes =
        ((earlier ++ [line]).flatMap fun other =>
          (program mode maxSteps .unlimited log other).sink.bytes) ∧
      (program mode maxSteps .unlimited log source).result =
        .error (if later = [] then error else error.beforeNextLine) := by
  obtain ⟨cause, rfl, lineFailed⟩ := result_eq_error_iff.mp failed
  have readings : sourceTerms source =
      ((earlier.map sourceTerms).flatMap Prod.fst ++ (sourceTerms line).1,
        some (if later = [] then cause else cause.beforeNextLine)) := by
    rw [sourceTerms_eq_ofLines, shape, List.map_append, List.map_cons,
      Reading.ofLines_append _ (succeed_iff.mpr succeed),
      Reading.ofLines_of_error _ lineFailed]
    simp only [List.map_eq_nil_iff]
  constructor
  · rw [(program_unlimited mode maxSteps log source).1, readings,
      flatMap_bytes]
    simp only [List.map_append, List.map_cons, List.map_nil,
      List.flatMap_append, List.flatMap_singleton]
  · refine result_eq_error_iff.mpr ⟨_, ?_, congrArg Prod.snd readings⟩
    split <;> rfl

/-- A line of blanks writes nothing. -/
theorem run_of_isBlank {line : String}
    (blank : ∀ character ∈ line.toList, isBlank character = true) :
    (program mode maxSteps .unlimited log line).result = .ok () ∧
      (program mode maxSteps .unlimited log line).sink.bytes = [] := by
  have readings := sourceTerms_of_isBlank blank
  refine ⟨result_eq_ok_iff.mpr (congrArg Prod.snd readings), ?_⟩
  rw [(program_unlimited mode maxSteps log line).1, readings]
  rfl

/-- Any other line that succeeds writes the lines that are prescribed for one
term. -/
theorem run_of_line {line : String} (noNewLine : '\n' ∉ line.toList)
    (noBlank : ¬∀ character ∈ line.toList, isBlank character = true)
    (succeeded : (program mode maxSteps .unlimited log line).result =
      .ok ()) :
    ∃ term, Term.parse line = .ok term ∧
      (program mode maxSteps .unlimited log line).sink.bytes =
        (textOf (prescribedLines mode maxSteps term)).toUTF8.data.toList := by
  obtain ⟨term, parsed, readings⟩ := exists_term_of_line noNewLine noBlank
    (result_eq_ok_iff.mp succeeded)
  refine ⟨term, parsed, ?_⟩
  rw [(program_unlimited mode maxSteps log line).1, readings,
    List.flatMap_singleton, outputBytes_eq_textOf]

/-- A run over a program in any mode and with any limit is made of the runs
over its lines, which are what stands between its newlines. It succeeds if and
only if all of them do, and then writes what they write. Otherwise it writes
what they write up to the first line whose run fails, and fails as that one
does, except that the end of the text is a newline where another line follows.
A line that succeeds is shown as nothing if it consists of blanks, and
otherwise as its only term, in the lines that the mode prescribes. -/
theorem program_is_made_of_lines (mode : Mode) (maxSteps : Nat) (log : Log)
    (source : String) :
    let run := program mode maxSteps .unlimited log
    let lines := sourceLines source
    (['\n'].intercalate (lines.map String.toList) = source.toList ∧
      lines.length = newLineCount source + 1 ∧
      ∀ line ∈ lines, '\n' ∉ line.toList) ∧
    ((run source).result = .ok () ↔
      ∀ line ∈ lines, (run line).result = .ok ()) ∧
    ((run source).result = .ok () →
      (run source).sink.bytes =
        lines.flatMap fun line => (run line).sink.bytes) ∧
    (∀ earlier line later error, lines = earlier ++ line :: later →
      (∀ other ∈ earlier, (run other).result = .ok ()) →
      (run line).result = .error error →
      (run source).sink.bytes =
          ((earlier ++ [line]).flatMap fun other =>
            (run other).sink.bytes) ∧
        (run source).result =
          .error (if later = [] then error else error.beforeNextLine)) ∧
    ∀ line ∈ lines,
      ((∀ character ∈ line.toList, isBlank character = true) →
        (run line).result = .ok () ∧ (run line).sink.bytes = []) ∧
      (¬(∀ character ∈ line.toList, isBlank character = true) →
        (run line).result = .ok () →
        ∃ term, Term.parse line = .ok term ∧
          (run line).sink.bytes = (textOf
            (prescribedLines mode maxSteps term)).toUTF8.data.toList) := by
  intro run lines
  refine ⟨⟨intercalate_sourceLines source, length_sourceLines source,
    fun _ => not_mem_of_mem_sourceLines⟩, result_eq_ok_iff_lines, ?_, ?_, ?_⟩
  · intro succeeded
    exact bytes_of_succeed (result_eq_ok_iff_lines.mp succeeded)
  · intro earlier line later error shape succeed failed
    exact run_of_failure shape succeed failed
  · intro line member
    refine ⟨run_of_isBlank, ?_⟩
    intro noBlank succeeded
    have noNewLine := not_mem_of_mem_sourceLines member
    exact run_of_line noNewLine noBlank succeeded

end Run

end NumberedLambda
