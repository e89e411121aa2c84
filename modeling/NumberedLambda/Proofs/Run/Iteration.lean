import NumberedLambda.Proofs.Parsing.Iteration
import NumberedLambda.Proofs.Run.Output

/-!
# Runs and iteration over a program

A run reads its program on its own, and still it agrees with iteration over the
terms of the program: it shows the terms that iteration yields, in the lines
that the mode prescribes, and ends with the error that iteration ends with. A
sink that becomes full has received the first part of this, byte by byte, and
its error is reported in place of any error that iteration would have met
later.
-/

namespace NumberedLambda

namespace Run

/-- The lines that a mode prescribes for a term. -/
def prescribedLines (mode : Mode) (maxSteps : Nat) (term : Term) :
    List String :=
  let shown := "Expression: " ++ term.render
  match mode with
  | .parseOnly => [shown]
  | .singleStep => [shown, "Evaluated: " ++ term.pass.render]
  | .normalize =>
      let outcome := term.normalize maxSteps
      let normalized := "Normalized: " ++ outcome.term.render
      if outcome.converged then
        [shown, normalized]
      else
        [shown, normalized ++ " (step limit reached)"]

/-- Lines as one text, each of them ended by a newline. -/
def textOf (lines : List String) : String :=
  lines.foldr (fun line later => line ++ "\n" ++ later) ""

/-- The bytes that are prescribed for an element that iteration yields. Nothing
is shown of an error. -/
def itemBytes (mode : Mode) (maxSteps : Nat) :
    Except ParseError Term → List UInt8
  | .ok term => (textOf (prescribedLines mode maxSteps term)).toUTF8.data.toList
  | .error _ => []

/-- How a run ends that iterates over these elements to the end. -/
def ending (items : List (Except ParseError Term)) : Except RunError Unit :=
  match items.getLast? with
  | some (.error error) => .error (.parse error)
  | _ => .ok ()

/-- What a run writes for a term are the prescribed lines. -/
theorem output_eq_textOf (mode : Mode) (maxSteps : Nat) (term : Term) :
    output mode maxSteps term =
      textOf (prescribedLines mode maxSteps term) := by
  cases mode with
  | parseOnly =>
      simp [output, expressionLine, evaluation, textOf, prescribedLines]
  | singleStep =>
      simp [output, expressionLine, evaluation, evaluatedLine, textOf,
        prescribedLines, String.append_assoc]
  | normalize =>
      have outcome : (term.normalizeLogged maxSteps .silent).1 =
          term.normalize maxSteps := rfl
      by_cases converged : (term.normalize maxSteps).converged
      · simp [output, expressionLine, evaluation, normalizedLine, textOf,
          prescribedLines, String.append_assoc, outcome, converged]
      · simp [output, expressionLine, evaluation, normalizedLine, textOf,
          prescribedLines, String.append_assoc, outcome, converged]

/-- The bytes that a run writes for a term are those of the prescribed
lines. -/
theorem outputBytes_eq_textOf (mode : Mode) (maxSteps : Nat) (term : Term) :
    outputBytes mode maxSteps term =
      (textOf (prescribedLines mode maxSteps term)).toUTF8.data.toList := by
  rw [outputBytes, output_eq_textOf]

theorem textOf_cons (line : String) (later : List String) :
    textOf (line :: later) = line ++ "\n" ++ textOf later :=
  rfl

theorem textOf_append (first later : List String) :
    textOf (first ++ later) = textOf first ++ textOf later := by
  induction first with
  | nil =>
      exact String.empty_append.symm
  | cons line first inductionHypothesis =>
      rw [List.cons_append, textOf_cons, textOf_cons, inductionHypothesis]
      exact String.append_assoc.symm

/-- The bytes that are written for terms are those of the prescribed lines. -/
theorem flatMap_outputBytes (mode : Mode) (maxSteps : Nat)
    (terms : List Term) :
    terms.flatMap (outputBytes mode maxSteps) =
      (textOf (terms.flatMap
        (prescribedLines mode maxSteps))).toUTF8.data.toList := by
  induction terms with
  | nil =>
      rfl
  | cons term later inductionHypothesis =>
      rw [List.flatMap_cons, List.flatMap_cons, textOf_append,
        toList_toUTF8_append, inductionHypothesis, outputBytes_eq_textOf]

theorem flatMap_itemBytes (mode : Mode) (maxSteps : Nat)
    (reading : Reading) :
    reading.items.flatMap (itemBytes mode maxSteps) =
      reading.1.flatMap (outputBytes mode maxSteps) := by
  obtain ⟨terms, error⟩ := reading
  have shown (term : Term) : itemBytes mode maxSteps (.ok term) =
      outputBytes mode maxSteps term := by
    rw [itemBytes, outputBytes_eq_textOf]
  have nothing : (error.toList.map Except.error).flatMap
      (itemBytes mode maxSteps) = [] := by
    cases error <;> rfl
  rw [Reading.items, List.flatMap_append, nothing, List.append_nil,
    List.flatMap_map]
  simp only [shown]

theorem ending_items (reading : Reading) :
    ending reading.items = reading.result := by
  obtain ⟨terms, error⟩ := reading
  cases error with
  | none =>
      simp only [ending, Reading.items, Reading.result, Option.toList_none,
        List.map_nil, List.append_nil, List.getLast?_map]
      cases terms.getLast? <;> rfl
  | some error =>
      simp [ending, Reading.items, Reading.result]

/-- A run in any mode and with any limit of passes writes, to a sink with room
for any number of bytes or without a limit, the first bytes of the lines that
are prescribed for the terms that iteration yields, as many as there is room
for. If they do not all fit, the run ends with the error of the sink; otherwise
it ends with the error that iteration ended with, if there is one. -/
theorem program_agrees_with_iteration (mode : Mode) (maxSteps : Nat)
    (room : Option Nat) (log : Log) (source : String) :
    let run := program mode maxSteps ⟨room, .empty⟩ log source
    let items := (Parser.start log source).items
    let full := items.flatMap (itemBytes mode maxSteps)
    run.sink.bytes = full.take (room.getD full.length) ∧
    (∀ limit, room = some limit → limit < full.length →
      run.result = .error (.transfer .sinkFull)) ∧
    ((∀ limit, room = some limit → full.length ≤ limit) →
      run.result = ending items) := by
  intro run items full
  have yielded : items = (sourceTerms source).items := items_start log source
  have capacity : Sink.capacity ⟨room, .empty⟩ = room := by
    cases room <;> simp [Sink.capacity, Sink.bytes]
  have ends := ends_program mode maxSteps ⟨room, .empty⟩ log source
  rw [← flatMap_itemBytes, ← ending_items, ← yielded] at ends
  rcases ends with ⟨takes, ended⟩ | ⟨⟨limit, limited, exceeded, kept⟩, failed⟩
  · have fits : ∀ limit, room = some limit → full.length ≤ limit := by
      intro limit limited
      rw [← capacity, ← takes.capacity_eq] at limited
      have bound := Sink.length_bytes_le limited
      rw [takes.bytes_eq] at bound
      exact bound
    refine ⟨?_, ?_, fun _ => ended⟩
    · have enough : full.length ≤ room.getD full.length := by
        cases room with
        | none =>
            exact Nat.le_refl _
        | some limit =>
            exact fits limit rfl
      rw [List.take_of_length_le enough]
      exact takes.bytes_eq
    · intro limit limited exceeded
      exact absurd exceeded (Nat.not_lt_of_le (fits limit limited))
  · rw [capacity] at limited
    subst limited
    refine ⟨kept, fun _ _ _ => failed, ?_⟩
    intro fits
    exact absurd exceeded (Nat.not_lt_of_le (fits limit rfl))

end Run

end NumberedLambda
