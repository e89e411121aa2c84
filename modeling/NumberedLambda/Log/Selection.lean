import NumberedLambda.Log

/-!
# Events of one kind

The events of a log by kind: the tokens that were scanned, the terms that were
parsed, and all events that are about terms, each in the order in which they
were recorded. A log that keeps everything grows at its end, and so does each
of these selections.
-/

namespace NumberedLambda

namespace Event

/-- The token of a scanning event. -/
def scannedToken? : Event → Option Token
  | .scanned token => some token
  | _ => none

/-- The term of a parsing event. -/
def parsedTerm? : Event → Option Term
  | .parsed term => some term
  | _ => none

/-- The term that an event shows, as it was parsed or after a pass. -/
def shownTerm? : Event → Option Term
  | .parsed term => some term
  | .reduced _ term => some term
  | _ => none

end Event

namespace Log

/-- The tokens that were scanned, in order. -/
def scannedTokens (log : Log) : List Token :=
  log.events.toList.filterMap Event.scannedToken?

/-- The terms that were parsed, in order. -/
def parsedTerms (log : Log) : List Term :=
  log.events.toList.filterMap Event.parsedTerm?

/-- The events that are not about tokens but about terms, in order. -/
def termEvents (log : Log) : List Event :=
  log.events.toList.filter fun event => event.scannedToken?.isNone

/-- The events about terms include the parsing events. -/
theorem parsedTerms_eq (log : Log) :
    log.parsedTerms = log.termEvents.filterMap Event.parsedTerm? := by
  have sameTerm : (fun event : Event =>
      if event.scannedToken?.isNone then event.parsedTerm? else none) =
        Event.parsedTerm? := by
    funext event
    cases event <;> rfl
  rw [termEvents, List.filterMap_filter, sameTerm, parsedTerms]

/-- A log that keeps everything has grown by `events`. -/
structure Continues (before : Log) (events : List Event) (after : Log) :
    Prop where
  complete : after.threshold = some .trace
  events_eq : after.events.toList = before.events.toList ++ events

namespace Continues

variable {before between after : Log} {events later : List Event}

theorem nothing {log : Log} (complete : log.threshold = some .trace) :
    log.Continues [] log :=
  ⟨complete, (List.append_nil _).symm⟩

/-- A further event goes to the end. -/
theorem add (continues : before.Continues events after) (event : Event) :
    before.Continues (events ++ [event]) (after.add event) where
  complete := (threshold_add after event).trans continues.complete
  events_eq := by
    rw [toList_events_add_of_trace event continues.complete,
      continues.events_eq, List.append_assoc]

theorem trans (continues : before.Continues events between)
    (continuesLater : between.Continues later after) :
    before.Continues (events ++ later) after where
  complete := continuesLater.complete
  events_eq := by
    rw [continuesLater.events_eq, continues.events_eq, List.append_assoc]

theorem scannedTokens_eq (continues : before.Continues events after) :
    after.scannedTokens =
      before.scannedTokens ++ events.filterMap Event.scannedToken? := by
  rw [scannedTokens, continues.events_eq, List.filterMap_append,
    scannedTokens]

theorem termEvents_eq (continues : before.Continues events after) :
    after.termEvents = before.termEvents ++
      events.filter fun event => event.scannedToken?.isNone := by
  rw [termEvents, continues.events_eq, List.filter_append, termEvents]

end Continues

end Log

end NumberedLambda
