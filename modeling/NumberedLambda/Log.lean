import NumberedLambda.Term
import NumberedLambda.Token

/-!
# The log

What happens during a run is recorded as a list of events: each token that is
scanned, each term that is parsed, each reduction pass that changes a term,
and the exhaustion of a budget of passes. A log keeps the events that are at
most as detailed as its threshold and drops the others.
-/

namespace NumberedLambda

/-- How detailed an event is. -/
inductive Level where
  | trace
  | debug
  | warn
deriving DecidableEq, Repr

namespace Level

/-- The name of a level. -/
def name : Level → String
  | .trace => "TRACE"
  | .debug => "DEBUG"
  | .warn => "WARN"

/-- The place of a level in the order from the most detailed one. -/
def rank : Level → Nat
  | .trace => 0
  | .debug => 1
  | .warn => 2

end Level

/-- Something that happened during a run. -/
inductive Event where
  | scanned (token : Token)
  | parsed (term : Term)
  | reduced (step : Nat) (term : Term)
  | stoppedAtLimit (maxSteps : Nat)
deriving DecidableEq, Repr

namespace Event

/-- How detailed an event is. -/
def level : Event → Level
  | .scanned _ => .trace
  | .parsed _ => .debug
  | .reduced _ _ => .debug
  | .stoppedAtLimit _ => .warn

/-- What kind of event it is, in words. -/
def message : Event → String
  | .scanned _ => "scanned token"
  | .parsed _ => "parsed expression"
  | .reduced _ _ => "reduction pass"
  | .stoppedAtLimit _ => "normalization stopped at step limit"

/-- The named values that an event carries. -/
def fields : Event → List (String × String)
  | .scanned token => [("token", token.description)]
  | .parsed term => [("expr", term.render)]
  | .reduced step term => [("step", decimal step), ("expr", term.render)]
  | .stoppedAtLimit maxSteps => [("max_steps", decimal maxSteps)]

/-- An event as one line of text. -/
def render (event : Event) : String :=
  " ".intercalate <|
    event.level.name :: event.message ::
      event.fields.map fun field => field.1 ++ "=" ++ field.2

end Event

/-- The events that were kept, in order, and the most detailed level that is
kept. Without a level nothing is kept. -/
structure Log where
  threshold : Option Level
  events : Array Event
deriving DecidableEq, Repr

namespace Log

/-- An empty log that keeps the events of `threshold` and of the less detailed
levels. -/
def keeping (threshold : Level) : Log where
  threshold := some threshold
  events := #[]

/-- An empty log that keeps nothing. -/
def silent : Log where
  threshold := none
  events := #[]

/-- Whether the log keeps events of a level. -/
def keeps (log : Log) (level : Level) : Bool :=
  match log.threshold with
  | none => false
  | some threshold => threshold.rank ≤ level.rank

/-- Record an event, if the log keeps its level. -/
def add (log : Log) (event : Event) : Log :=
  if log.keeps event.level then
    { log with events := log.events.push event }
  else
    log

@[simp]
theorem threshold_add (log : Log) (event : Event) :
    (log.add event).threshold = log.threshold := by
  unfold add
  split <;> rfl

@[simp]
theorem add_silent (event : Event) : silent.add event = silent :=
  rfl

/-- A log that keeps everything has every added event at its end. -/
theorem toList_events_add_of_trace
    {log : Log} (event : Event) (complete : log.threshold = some .trace) :
    (log.add event).events.toList = log.events.toList ++ [event] := by
  have kept : log.keeps event.level = true := by
    simp [keeps, complete, Level.rank]
  simp [add, kept]

end Log

end NumberedLambda
