import NumberedLambda.Run

/-!
# Command line arguments

The arguments name one source file and may choose the mode, the limit on the
number of passes, and a more detailed log. They are read from left to right.

An option that takes a value may be followed by the value as an argument of
its own. Such an option stays open until another known option, the source file
or the end of the arguments settles it; only then is it checked that it has a
value, that it was not given before, and that the value is acceptable. An
argument that is not known at all is an error at once, even if an open option
would have been in error too.
-/

namespace NumberedLambda

namespace CommandLine

/-- What a run is to do, as the arguments say it. -/
structure Settings where
  sourcePath : String
  mode : Mode
  maxSteps : Nat
  verbose : Bool
deriving DecidableEq, Repr

/-- Why arguments are refused. -/
inductive UsageError where
  | unknownArgument
  | invalidValue
  | valueValidation
  | argumentConflict
  | tooManyValues
  | missingRequiredArgument
deriving DecidableEq, Repr

/-- What the arguments ask for. -/
inductive Request where
  | run (settings : Settings)
  | help
  | version
  | refuse (error : UsageError)
deriving DecidableEq, Repr

/-- The options that take a value. -/
inductive Valued where
  | mode
  | maxSteps
deriving DecidableEq, Repr

/-- The options that take no value. -/
inductive Switch where
  | verbose
  | help
  | version
deriving DecidableEq, Repr

/-- A known option. -/
inductive Known where
  | valued (option : Valued)
  | switch (option : Switch)
deriving DecidableEq, Repr

namespace Known

/-- The option of a long name, which has to be given in full. -/
def ofLongName? : String → Option Known
  | "eval-mode" => some (.valued .mode)
  | "max-steps" => some (.valued .maxSteps)
  | "verbose" => some (.switch .verbose)
  | "help" => some (.switch .help)
  | "version" => some (.switch .version)
  | _ => none

/-- The option of a letter. -/
def ofLetter? : Char → Option Known
  | 'e' => some (.valued .mode)
  | 'm' => some (.valued .maxSteps)
  | 'v' => some (.switch .verbose)
  | 'h' => some (.switch .help)
  | 'V' => some (.switch .version)
  | _ => none

end Known

/-- The largest limit on the number of passes: what fits in 64 bits. -/
def largestLimit : Nat :=
  18446744073709551615

/-- The number that a text stands for: decimal digits, perhaps after a plus
sign, and not too large. -/
def readLimit? (text : String) : Option Nat :=
  let digits :=
    match text.toList with
    | '+' :: digits => digits
    | digits => digits
  if digits.isEmpty || !digits.all Char.isDigit then
    none
  else
    let number :=
      digits.foldl
        (fun number digit => 10 * number + (digit.toNat - '0'.toNat)) 0
    if number ≤ largestLimit then some number else none

/-- The arguments read so far. The open option comes with the value that has
been read for it, if there is one already. -/
structure Reading where
  sourcePath : Option String
  mode : Option Mode
  maxSteps : Option Nat
  verbose : Bool
  openOption : Option (Valued × Option String)
deriving DecidableEq, Repr

namespace Reading

/-- Before the first argument. -/
def start : Reading where
  sourcePath := none
  mode := none
  maxSteps := none
  verbose := false
  openOption := none

/-- Take over a value of an option that was not given before. -/
def assign (reading : Reading) (option : Valued) (value : String) :
    Except UsageError Reading :=
  match option with
  | .mode =>
      if reading.mode.isSome then
        .error .argumentConflict
      else
        match Mode.ofName? value with
        | none => .error .invalidValue
        | some mode => .ok { reading with mode := some mode }
  | .maxSteps =>
      if reading.maxSteps.isSome then
        .error .argumentConflict
      else
        match readLimit? value with
        | none => .error .valueValidation
        | some limit => .ok { reading with maxSteps := some limit }

/-- Settle the open option, if there is one. -/
def settle (reading : Reading) : Except UsageError Reading :=
  match reading.openOption with
  | none => .ok reading
  | some (_, none) => .error .invalidValue
  | some (option, some value) =>
      assign { reading with openOption := none } option value

/-- The result of reading one more argument: the arguments ask for something
already, or there are more of them to read. -/
abbrev Progress : Type :=
  Except Request Reading

/-- Settle the open option and go on; its error ends the reading. -/
def settled (reading : Reading) (next : Reading → Progress) : Progress :=
  match reading.settle with
  | .error error => .error (.refuse error)
  | .ok settled => next settled

/-- An option that takes no value. -/
def applySwitch (reading : Reading) (option : Switch) : Progress :=
  reading.settled fun reading =>
    match option with
    | .verbose =>
        if reading.verbose then
          .error (.refuse .argumentConflict)
        else
          .ok { reading with verbose := true }
    | .help => .error .help
    | .version => .error .version

/-- An option with its value attached. -/
def applyAttached (reading : Reading) (option : Valued) (value : String) :
    Progress :=
  reading.settled fun reading =>
    match reading.assign option value with
    | .error error => .error (.refuse error)
    | .ok assigned => .ok assigned

/-- An option whose value is to follow. -/
def openValued (reading : Reading) (option : Valued) : Progress :=
  reading.settled fun reading =>
    .ok { reading with openOption := some (option, none) }

/-- An argument that is no option: the source file, of which there is only
one. -/
def applyPositional (reading : Reading) (argument : String) : Progress :=
  if reading.sourcePath.isSome then
    .error (.refuse .unknownArgument)
  else
    reading.settled fun reading =>
      .ok { reading with sourcePath := some argument }

/-- An argument after two dashes: the name of an option and perhaps, after an
equals sign, its value. -/
def applyLong (reading : Reading) (text : List Char) : Progress :=
  let name := text.takeWhile (· ≠ '=')
  match Known.ofLongName? (String.ofList name), text.drop name.length with
  | none, _ => .error (.refuse .unknownArgument)
  | some (.valued option), [] => reading.openValued option
  | some (.valued option), _ :: value =>
      reading.applyAttached option (String.ofList value)
  | some (.switch option), [] => reading.applySwitch option
  | some (.switch _), _ :: _ => .error (.refuse .tooManyValues)

/-- The letters after a single dash. The rest after an option that takes a
value is the value, with or without an equals sign. -/
def applyLetters (reading : Reading) : List Char → Progress
  | [] => .ok reading
  | letter :: later =>
      match Known.ofLetter? letter with
      | none => .error (.refuse .unknownArgument)
      | some (.switch option) =>
          match reading.applySwitch option with
          | .error request => .error request
          | .ok applied => applied.applyLetters later
      | some (.valued option) =>
          match later with
          | [] => reading.openValued option
          | '=' :: value =>
              reading.applyAttached option (String.ofList value)
          | value => reading.applyAttached option (String.ofList value)

/-- An argument that does not begin with a dash, or a dash alone: the value of
the option before it if that is still to come. -/
def applyPlain (reading : Reading) (argument : String) : Progress :=
  match reading.openOption with
  | some (option, none) =>
      .ok { reading with openOption := some (option, some argument) }
  | _ => reading.applyPositional argument

/-- One argument before any double dash. -/
def apply (reading : Reading) (argument : String) : Progress :=
  match argument.toList with
  | '-' :: '-' :: text => reading.applyLong text
  | '-' :: letter :: letters => reading.applyLetters (letter :: letters)
  | _ => reading.applyPlain argument

/-- All arguments are read: the source file has to be among them, and what was
not chosen takes its usual value. -/
def conclude (reading : Reading) : Request :=
  match reading.settle with
  | .error error => .refuse error
  | .ok reading =>
      match reading.sourcePath with
      | none => .refuse .missingRequiredArgument
      | some sourcePath =>
          .run
            { sourcePath := sourcePath
              mode := reading.mode.getD .singleStep
              maxSteps := reading.maxSteps.getD 10000
              verbose := reading.verbose }

/-- The arguments after a double dash, none of which is an option. -/
def readPositionals (reading : Reading) : List String → Request
  | [] => reading.conclude
  | argument :: later =>
      match reading.applyPositional argument with
      | .error request => request
      | .ok applied => applied.readPositionals later

/-- The remaining arguments. -/
def read (reading : Reading) : List String → Request
  | [] => reading.conclude
  | argument :: later =>
      if argument = "--" then
        reading.readPositionals later
      else
        match reading.apply argument with
        | .error request => request
        | .ok applied => applied.read later

end Reading

/-- What a list of arguments asks for. -/
def request (arguments : List String) : Request :=
  Reading.start.read arguments

end CommandLine

end NumberedLambda
