import NumberedLambda.CommandLine.Execution

/-!
# The program

The outermost layer: it reads the source file and passes the outcome on to the
standard streams.
-/

namespace NumberedLambda

namespace CommandLine

/-- The number of a system error. The system reports it with either sign. -/
def errorNumber (code : UInt32) : Nat :=
  code.toInt32.toInt.natAbs

/-- The system error of a number. The errors that a path alone can cause have
descriptions of their own. -/
def systemError (number : Nat) (details : String) : TransferError :=
  match number with
  | 2 => .missing
  | 20 => .notDirectory
  | 21 => .isDirectory
  | 36 => .nameTooLong
  | _ => .system details number

/-- What a failed reading means for a run. -/
def transferError : IO.Error → TransferError
  | .noFileOrDirectory _ _ _ => .missing
  | .inappropriateType _ code details => systemError (errorNumber code) details
  | .permissionDenied _ code details => systemError (errorNumber code) details
  | .resourceExhausted _ code details => systemError (errorNumber code) details
  | .invalidArgument _ code details => systemError (errorNumber code) details
  | .hardwareFault code details => systemError (errorNumber code) details
  | .otherError code details => systemError (errorNumber code) details
  | other => .system (toString other) 0

/-- The bytes of a file, or why they cannot be read. -/
def readSource (path : String) : IO (Except TransferError ByteArray) := do
  if containsNul path then
    return .error .nulInPath
  try
    return .ok (← IO.FS.readBinFile path)
  catch error =>
    return .error (transferError error)

end CommandLine

end NumberedLambda

open NumberedLambda in
/-- Run the program on its arguments. -/
def main (arguments : List String) : IO UInt32 := do
  let execution ← CommandLine.execute CommandLine.readSource arguments
  (← IO.getStdout).write execution.standardOutput
  for event in execution.log.events do
    IO.eprintln event.render
  if let some line := execution.errorLine then
    IO.eprintln line
  return UInt32.ofNat execution.exitCode
