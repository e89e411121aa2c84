import NumberedLambda.CommandLine.Arguments

/-!
# What the program does with a request

The outcome of a call of the program: its exit code, its standard output, the
log, and the last line on the error stream if the run has failed. A failed run
exits with 1 and refused arguments with 2.
-/

namespace NumberedLambda

namespace CommandLine

/-- The outcome of a call. -/
structure Execution where
  exitCode : Nat
  standardOutput : ByteArray
  log : Log
  errorLine : Option String

/-- The name by which the program is called. -/
def programName : String :=
  "rust-lambda-uniq"

/-- The name and version of the program. -/
def versionText : String :=
  programName ++ " 0.1.0\n"

/-- A short description of the arguments. -/
def helpText : String :=
  "\n".intercalate
    ["Run a lambda calculus program and print each expression, " ++
        "along with its evaluation",
      "",
      "Usage: " ++ programName ++ " [OPTIONS] <SRC_FILEPATH>",
      "",
      "Arguments:",
      "  <SRC_FILEPATH>  The input filepath to run on. " ++
        "Holds one expression per line",
      "",
      "Options:",
      "  -e, --eval-mode <EVAL_MODE>  " ++
        "How much evaluation to do on each expression " ++
        "[default: single-step] " ++
        "[possible values: none, single-step, normalize]",
      "  -m, --max-steps <MAX_STEPS>  " ++
        "Upper bound on reduction passes when normalizing " ++
        "[default: 10000]",
      "  -v, --verbose                " ++
        "Log each parsed expression and reduction pass to stderr",
      "  -h, --help                   Print help",
      "  -V, --version                Print version",
      ""]

/-- The log that goes with the settings: warnings only, or also what is parsed
and reduced. -/
def Settings.log (settings : Settings) : Log :=
  .keeping (if settings.verbose then .debug else .warn)

/-- Run the source file of the settings, given what reading it has led to. -/
def Settings.execute (settings : Settings) (sink : Sink)
    (contents : Except TransferError ByteArray) : Execution :=
  let report :=
    Run.file settings.mode settings.maxSteps sink settings.log contents
  { exitCode :=
      match report.result with
      | .ok () => 0
      | .error _ => 1
    standardOutput := report.sink.written
    log := report.log
    errorLine :=
      match report.result with
      | .ok () => none
      | .error error => some error.message }

/-- Answer a call without running anything. -/
def answerWith (exitCode : Nat) (text : String) : Execution where
  exitCode := exitCode
  standardOutput := text.toUTF8
  log := .silent
  errorLine := none

/-- Whether a path contains the null character, with which no path can be
handed to an operating system. -/
def containsNul (path : String) : Bool :=
  path.toList.contains '\x00'

/-- Answer a call of the program. The contents of the source file are asked
for only if it is to be run. -/
def execute {Effect : Type → Type} [Monad Effect]
    (readFile : String → Effect (Except TransferError ByteArray))
    (arguments : List String) : Effect Execution :=
  match request arguments with
  | .run settings => do
      return settings.execute .unlimited (← readFile settings.sourcePath)
  | .help => return answerWith 0 helpText
  | .version => return answerWith 0 versionText
  | .refuse _ => return answerWith 2 ""

end CommandLine

end NumberedLambda
