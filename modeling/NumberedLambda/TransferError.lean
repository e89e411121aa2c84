import NumberedLambda.Identifier

/-!
# Failed transfers

Why a source text could not be read, or the output not be written. An error
that the operating system has reported keeps its description and its number.
-/

namespace NumberedLambda

/-- Why a program could not be read or its output not be written. -/
inductive TransferError where
  | sinkFull
  | invalidText
  | nulInPath
  | system (description : String) (code : Nat)
deriving DecidableEq, Repr

namespace TransferError

/-- There is no file of the given name. -/
def missing : TransferError :=
  .system "No such file or directory" 2

/-- Something on the way to the file is not a directory. -/
def notDirectory : TransferError :=
  .system "Not a directory" 20

/-- The name is the name of a directory. -/
def isDirectory : TransferError :=
  .system "Is a directory" 21

/-- The path, or a name in it, is longer than a path or a name may be. -/
def nameTooLong : TransferError :=
  .system "File name too long" 36

/-- The wording of a failed transfer. -/
def message : TransferError → String
  | .sinkFull => "sink full"
  | .invalidText => "stream did not contain valid UTF-8"
  | .nulInPath => "file name contained an unexpected NUL byte"
  | .system description code =>
      description ++ " (os error " ++ decimal code ++ ")"

end TransferError

end NumberedLambda
