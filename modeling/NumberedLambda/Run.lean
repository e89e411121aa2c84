import NumberedLambda.Normalization
import NumberedLambda.Parser.Sequence
import NumberedLambda.Sink

/-!
# Running a program

A program is a source text with a term on each line. Each term is shown as
soon as it has been read, together with what the mode makes of it, so the
output of the lines before an error is complete. The run ends at the end of
the text, at the first parse error, or when the output cannot be written.
-/

namespace NumberedLambda

/-- How much evaluation each term gets: none, one pass, or passes until
nothing changes. -/
inductive Mode where
  | parseOnly
  | singleStep
  | normalize
deriving DecidableEq, Repr

namespace Mode

/-- The name of a mode. -/
def name : Mode → String
  | .parseOnly => "none"
  | .singleStep => "single-step"
  | .normalize => "normalize"

/-- The mode of a given name. -/
def ofName? : String → Option Mode
  | "none" => some .parseOnly
  | "single-step" => some .singleStep
  | "normalize" => some .normalize
  | _ => none

end Mode

/-- Why a run came to an end before the end of its program. -/
inductive RunError where
  | transfer (error : TransferError)
  | parse (error : ParseError)
deriving DecidableEq, Repr

namespace RunError

/-- The wording of a run error. -/
def message : RunError → String
  | .transfer error => "Input file error: " ++ error.message
  | .parse error => "Parse error: " ++ error.message

end RunError

/-- What a run leaves: the sink with the output, the log, and how the run
ended. -/
structure Report where
  sink : Sink
  log : Log
  result : Except RunError Unit

namespace Run

/-- The line that shows a term as it was read. -/
def expressionLine (term : Term) : String :=
  "Expression: " ++ term.render ++ "\n"

/-- The line that shows a term after one pass. -/
def evaluatedLine (term : Term) : String :=
  "Evaluated: " ++ term.pass.render ++ "\n"

/-- The line that shows the result of normalization, marked if the limit was
reached before the term stopped changing. -/
def normalizedLine (outcome : Normalization) : String :=
  "Normalized: " ++ outcome.term.render ++
    (if outcome.converged then "\n" else " (step limit reached)\n")

/-- What a mode shows of a term after the term itself, and the log of the
evaluation. -/
def evaluation (mode : Mode) (maxSteps : Nat) (term : Term) (log : Log) :
    String × Log :=
  match mode with
  | .parseOnly => ("", log)
  | .singleStep => (evaluatedLine term, log)
  | .normalize =>
      let outcome := term.normalizeLogged maxSteps log
      (normalizedLine outcome.1, outcome.2)

/-- Everything that a run in the given mode writes for a term. -/
def output (mode : Mode) (maxSteps : Nat) (term : Term) : String :=
  expressionLine term ++ (evaluation mode maxSteps term .silent).1

/-- Show a term. It is evaluated only after it has been written itself. -/
def present (mode : Mode) (maxSteps : Nat) (term : Term)
    (sink : Sink) (log : Log) :
    EStateM.Result TransferError (Sink × Log) Unit :=
  match sink.write (expressionLine term) with
  | .error error full => .error error (full, log)
  | .ok () shown =>
      let evaluated := evaluation mode maxSteps term log
      match shown.write evaluated.1 with
      | .error error full => .error error (full, evaluated.2)
      | .ok () complete => .ok () (complete, evaluated.2)

/-- Show the remaining terms of a parser. -/
def continueFrom (mode : Mode) (maxSteps : Nat) (parser : Parser)
    (sink : Sink) : Report :=
  match _ : parser.parse with
  | .error .endOfInput left => ⟨sink, left.log, .ok ()⟩
  | .error error left => ⟨sink, left.log, .error (.parse error)⟩
  | .ok term left =>
      match present mode maxSteps term sink left.log with
      | .error error (full, log) => ⟨full, log, .error (.transfer error)⟩
      | .ok () (shown, log) =>
          continueFrom mode maxSteps { left with log := log } shown
termination_by parser.remaining
decreasing_by
  have shorter : left.remaining < parser.remaining :=
    Parser.remaining_lt_of_parse ‹_›
  exact shorter

/-- Run a program, writing to a sink and recording events in a log. -/
def program (mode : Mode) (maxSteps : Nat) (sink : Sink) (log : Log)
    (source : String) : Report :=
  match Parser.start log source with
  | .error error left => ⟨sink, left.log, .error (.parse error)⟩
  | .ok () parser => continueFrom mode maxSteps parser sink

/-- Run the program in a file, given what reading the file has led to. The
contents have to be UTF-8. -/
def file (mode : Mode) (maxSteps : Nat) (sink : Sink) (log : Log)
    (contents : Except TransferError ByteArray) : Report :=
  match contents with
  | .error error => ⟨sink, log, .error (.transfer error)⟩
  | .ok bytes =>
      match String.fromUTF8? bytes with
      | none => ⟨sink, log, .error (.transfer .invalidText)⟩
      | some source => program mode maxSteps sink log source

end Run

end NumberedLambda
