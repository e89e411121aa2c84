import NumberedLambda.TransferError

/-!
# Sinks

The output of a run goes to a sink of bytes. A sink may have room for a
limited number of bytes; what fits is taken, and a text that does not fit as a
whole is an error. `Sink.Accepted` says when a text fits, and the lemmas at the
end say what is written in either case.
-/

namespace NumberedLambda

/-- The bytes written so far, and the number of bytes that still fit if there
is a limit. -/
structure Sink where
  room : Option Nat
  written : ByteArray

namespace Sink

/-- A sink that takes everything. -/
def unlimited : Sink where
  room := none
  written := .empty

/-- A sink that takes `room` bytes. -/
def limited (room : Nat) : Sink where
  room := some room
  written := .empty

/-- Write a text in UTF-8. If it does not fit, the part that fits is
written. -/
def write (sink : Sink) (text : String) :
    EStateM.Result TransferError Sink Unit :=
  match sink.room with
  | none =>
      .ok () { sink with written := sink.written ++ text.toUTF8 }
  | some room =>
      if text.toUTF8.size ≤ room then
        .ok ()
          { room := some (room - text.toUTF8.size)
            written := sink.written ++ text.toUTF8 }
      else
        .error .sinkFull
          { room := some 0
            written := sink.written ++ text.toUTF8.extract 0 room }

/-- Whether a sink has room for a text as a whole. -/
def Accepted (sink : Sink) (text : String) : Prop :=
  ∀ room, sink.room = some room → text.toUTF8.size ≤ room

/-- A text that fits is written, and takes its size from the room. -/
theorem write_of_accepted {sink : Sink} {text : String}
    (accepted : sink.Accepted text) :
    sink.write text =
      .ok ()
        { room := sink.room.map fun room => room - text.toUTF8.size
          written := sink.written ++ text.toUTF8 } := by
  unfold write
  split
  · rename_i unbounded
    rw [unbounded]
    rfl
  · rename_i room bounded
    rw [if_pos (accepted room bounded), bounded]
    rfl

/-- Of a text that does not fit, the part that fits is written, and nothing
fits any more. -/
theorem write_of_lt {sink : Sink} {text : String} {room : Nat}
    (bounded : sink.room = some room) (larger : room < text.toUTF8.size) :
    sink.write text =
      .error .sinkFull
        { room := some 0
          written := sink.written ++ text.toUTF8.extract 0 room } := by
  unfold write
  split
  · rename_i unbounded
    rw [bounded] at unbounded
    cases unbounded
  · rename_i otherRoom otherBound
    cases bounded.symm.trans otherBound
    rw [if_neg (Nat.not_le_of_lt larger)]

end Sink

end NumberedLambda
