import NumberedLambda.Proofs.Parsing.Lines
import NumberedLambda.Run

/-!
# The output of a run

A run shows all the terms that are read of its program, one after the other,
and ends as the reading ends, unless its sink is full before. Then the sink has
the first part of what is to be shown, and the run ends with the error of the
sink. What is shown of a term depends on nothing but the term, the mode and the
number of allowed passes.

How much a sink takes in all, its capacity, does not change when it is written
to. So a run is described by what it would write if there were no limit,
however the output is divided into single writes.
-/

namespace NumberedLambda

/-- The bytes that a sink has taken. -/
def Sink.bytes (sink : Sink) : List UInt8 :=
  sink.written.data.toList

/-- How a run ends after what has been read. -/
def Reading.result (reading : Reading) : Except RunError Unit :=
  match reading.2 with
  | none => .ok ()
  | some error => .error (.parse error)

namespace Sink

/-- The number of bytes that a sink can hold in all, if there is a limit. -/
def capacity (sink : Sink) : Option Nat :=
  sink.room.map (sink.bytes.length + ·)

/-- All of `bytes` has been written to a sink. -/
structure Takes (sink : Sink) (bytes : List UInt8) (after : Sink) : Prop where
  capacity_eq : after.capacity = sink.capacity
  bytes_eq : after.bytes = sink.bytes ++ bytes

/-- A sink has become full while `bytes` was written to it. -/
def CutsOff (sink : Sink) (bytes : List UInt8) (after : Sink) : Prop :=
  ∃ limit, sink.capacity = some limit ∧
    limit < (sink.bytes ++ bytes).length ∧
    after.bytes = (sink.bytes ++ bytes).take limit

variable {sink between after : Sink} {first last bytes : List UInt8}

theorem length_bytes_le {limit : Nat}
    (limited : sink.capacity = some limit) : sink.bytes.length ≤ limit := by
  obtain ⟨room, _, rfl⟩ := Option.map_eq_some_iff.mp limited
  exact Nat.le_add_right _ _

namespace Takes

theorem nothing (sink : Sink) : Takes sink [] sink :=
  ⟨rfl, (List.append_nil _).symm⟩

theorem append (takesFirst : sink.Takes first between)
    (takesLast : between.Takes last after) :
    sink.Takes (first ++ last) after where
  capacity_eq := takesLast.capacity_eq.trans takesFirst.capacity_eq
  bytes_eq := by
    rw [takesLast.bytes_eq, takesFirst.bytes_eq, List.append_assoc]

theorem append_cutsOff (takesFirst : sink.Takes first between)
    (cutsOffLast : between.CutsOff last after) :
    sink.CutsOff (first ++ last) after := by
  unfold CutsOff at cutsOffLast
  rw [takesFirst.capacity_eq, takesFirst.bytes_eq,
    List.append_assoc] at cutsOffLast
  exact cutsOffLast

end Takes

/-- What would have followed makes no difference for a sink that is full. -/
theorem CutsOff.append (cutsOff : sink.CutsOff first after)
    (last : List UInt8) : sink.CutsOff (first ++ last) after := by
  obtain ⟨limit, limited, exceeded, kept⟩ := cutsOff
  have longer : (sink.bytes ++ first).length ≤
      (sink.bytes ++ (first ++ last)).length := by
    simp only [List.length_append]
    omega
  refine ⟨limit, limited, Nat.lt_of_lt_of_le exceeded longer, ?_⟩
  rw [kept, ← List.append_assoc,
    List.take_append_of_le_length (Nat.le_of_lt exceeded)]

theorem exists_takes_write {text : String} (accepted : sink.Accepted text) :
    ∃ after, sink.write text = .ok () after ∧
      sink.Takes text.toUTF8.data.toList after := by
  refine ⟨_, write_of_accepted accepted, ?_, ByteArray.toList_data_append⟩
  cases limited : sink.room with
  | none =>
      simp only [capacity, limited, Option.map_none]
  | some room =>
      have fits := accepted room limited
      simp only [capacity, bytes, limited, Option.map_some,
        ByteArray.toList_data_append, List.length_append, Array.length_toList,
        ByteArray.size_data, Option.some.injEq]
      omega

theorem exists_cutsOff_write {text : String} {room : Nat}
    (limited : sink.room = some room) (larger : room < text.toUTF8.size) :
    ∃ after, sink.write text = .error .sinkFull after ∧
      sink.CutsOff text.toUTF8.data.toList after := by
  refine ⟨_, write_of_lt limited larger, sink.bytes.length + room, ?_, ?_, ?_⟩
  · rw [capacity, limited, Option.map_some]
  · have textLength : text.toUTF8.data.toList.length = text.toUTF8.size :=
      rfl
    rw [List.length_append, textLength]
    exact Nat.add_lt_add_left larger _
  · rw [List.take_length_add_append, bytes, ByteArray.toList_data_append,
      ByteArray.data_extract, Array.toList_extract]
    rfl

/-- A text is written as a whole, or the sink becomes full. -/
theorem write_cases (sink : Sink) (text : String) :
    (∃ after, sink.write text = .ok () after ∧
      sink.Takes text.toUTF8.data.toList after) ∨
    (∃ after, sink.write text = .error .sinkFull after ∧
      sink.CutsOff text.toUTF8.data.toList after) := by
  cases limited : sink.room with
  | none =>
      apply Or.inl
      apply exists_takes_write
      intro room otherwise
      rw [limited] at otherwise
      cases otherwise
  | some room =>
      by_cases fits : text.toUTF8.size ≤ room
      · apply Or.inl
        apply exists_takes_write
        intro otherRoom same
        rw [limited] at same
        cases same
        exact fits
      · exact Or.inr (exists_cutsOff_write limited (Nat.lt_of_not_le fits))

end Sink

namespace Run

/-- The bytes that a run writes for a term. -/
def outputBytes (mode : Mode) (maxSteps : Nat) (term : Term) : List UInt8 :=
  (output mode maxSteps term).toUTF8.data.toList

theorem evaluation_fst (mode : Mode) (maxSteps : Nat) (term : Term)
    (log : Log) :
    (evaluation mode maxSteps term log).1 =
      (evaluation mode maxSteps term .silent).1 := by
  cases mode with
  | parseOnly =>
      rfl
  | singleStep =>
      rfl
  | normalize =>
      simp only [evaluation, Term.normalizeLogged_fst]

theorem toList_toUTF8_append (first last : String) :
    (first ++ last).toUTF8.data.toList =
      first.toUTF8.data.toList ++ last.toUTF8.data.toList := by
  rw [String.toUTF8, String.toByteArray_append]
  exact ByteArray.toList_data_append

theorem outputBytes_eq (mode : Mode) (maxSteps : Nat) (term : Term)
    (log : Log) :
    outputBytes mode maxSteps term =
      (expressionLine term).toUTF8.data.toList ++
        (evaluation mode maxSteps term log).1.toUTF8.data.toList := by
  rw [evaluation_fst, outputBytes, output, toList_toUTF8_append]

/-- A term is shown as a whole and its evaluation is logged, or the sink
becomes full. -/
theorem present_cases (mode : Mode) (maxSteps : Nat) (term : Term)
    (sink : Sink) (log : Log) :
    (∃ shown,
      present mode maxSteps term sink log =
        .ok () (shown, (evaluation mode maxSteps term log).2) ∧
      sink.Takes (outputBytes mode maxSteps term) shown) ∨
    (∃ full after,
      present mode maxSteps term sink log = .error .sinkFull (full, after) ∧
      sink.CutsOff (outputBytes mode maxSteps term) full) := by
  rw [outputBytes_eq mode maxSteps term log]
  rcases sink.write_cases (expressionLine term) with
    ⟨between, written, takesTerm⟩ | ⟨full, written, cutsOff⟩
  · rcases between.write_cases (evaluation mode maxSteps term log).1 with
      ⟨shown, writtenRest, takesRest⟩ | ⟨full, writtenRest, cutsOff⟩
    · refine Or.inl ⟨shown, ?_, takesTerm.append takesRest⟩
      simp only [present, written, writtenRest]
    · refine Or.inr ⟨full, (evaluation mode maxSteps term log).2, ?_,
        takesTerm.append_cutsOff cutsOff⟩
      simp only [present, written, writtenRest]
  · refine Or.inr ⟨full, log, ?_, cutsOff.append _⟩
    simp only [present, written]

variable {mode : Mode} {maxSteps : Nat} {parser : Parser} {sink : Sink}

theorem continueFrom_of_endOfInput {left : Parser}
    (parsed : parser.parse = .error .endOfInput left) :
    continueFrom mode maxSteps parser sink = ⟨sink, left.log, .ok ()⟩ := by
  rw [continueFrom]
  split
  · rename_i read
    cases parsed.symm.trans read
    rfl
  · rename_i noEnd read
    cases parsed.symm.trans read
    exact absurd rfl noEnd
  · rename_i read
    cases parsed.symm.trans read

theorem continueFrom_of_error {error : ParseError} {left : Parser}
    (noEnd : error ≠ .endOfInput)
    (parsed : parser.parse = .error error left) :
    continueFrom mode maxSteps parser sink =
      ⟨sink, left.log, .error (.parse error)⟩ := by
  rw [continueFrom]
  split <;> rename_i read <;> cases parsed.symm.trans read
  · exact absurd rfl noEnd
  · rfl

theorem continueFrom_of_ok {term : Term} {left : Parser} {shown : Sink}
    {log : Log} (parsed : parser.parse = .ok term left)
    (presented : present mode maxSteps term sink left.log =
      .ok () (shown, log)) :
    continueFrom mode maxSteps parser sink =
      continueFrom mode maxSteps { left with log := log } shown := by
  rw [continueFrom]
  split <;> rename_i read <;> cases parsed.symm.trans read
  simp only [presented]

theorem continueFrom_of_transfer {term : Term} {left : Parser} {full : Sink}
    {error : TransferError} {log : Log}
    (parsed : parser.parse = .ok term left)
    (presented : present mode maxSteps term sink left.log =
      .error error (full, log)) :
    continueFrom mode maxSteps parser sink =
      ⟨full, log, .error (.transfer error)⟩ := by
  rw [continueFrom]
  split <;> rename_i read <;> cases parsed.symm.trans read
  simp only [presented]

/-- How a run ends that is to write `bytes` and then to end with `result`:
either all is written, or the sink becomes full. -/
def Ends (report : Report) (sink : Sink) (bytes : List UInt8)
    (result : Except RunError Unit) : Prop :=
  (sink.Takes bytes report.sink ∧ report.result = result) ∨
    (sink.CutsOff bytes report.sink ∧
      report.result = .error (.transfer .sinkFull))

theorem Ends.after_takes {report : Report} {shown : Sink}
    {first last : List UInt8} {result : Except RunError Unit}
    (takes : sink.Takes first shown) (ends : Ends report shown last result) :
    Ends report sink (first ++ last) result := by
  rcases ends with ⟨takesLast, ended⟩ | ⟨cutsOff, failed⟩
  · exact Or.inl ⟨takes.append takesLast, ended⟩
  · exact Or.inr ⟨takes.append_cutsOff cutsOff, failed⟩

theorem ends_continueFrom (mode : Mode) (maxSteps : Nat) (parser : Parser)
    (sink : Sink) :
    Ends (continueFrom mode maxSteps parser sink) sink
      (parser.terms.1.flatMap (outputBytes mode maxSteps))
      (Reading.result parser.terms) := by
  induction measured : parser.remaining using Nat.strongRecOn
    generalizing parser sink with
  | ind size inductionHypothesis =>
      subst measured
      cases parsed : parser.parse with
      | ok term left =>
          rw [Parser.terms_of_ok parsed, List.flatMap_cons]
          rcases present_cases mode maxSteps term sink left.log with
            ⟨shown, presented, takes⟩ | ⟨full, log, presented, cutsOff⟩
          · let next : Parser :=
              { left with log := (evaluation mode maxSteps term left.log).2 }
            have sameTerms : next.terms = left.terms :=
              Parser.terms_eq_of_scanner rfl
            have later := inductionHypothesis _
              (Parser.remaining_lt_of_parse parsed) next shown rfl
            rw [sameTerms] at later
            rw [continueFrom_of_ok parsed presented]
            exact later.after_takes takes
          · rw [continueFrom_of_transfer parsed presented]
            exact Or.inr ⟨cutsOff.append _, rfl⟩
      | error error left =>
          by_cases atEnd : error = .endOfInput
          · subst atEnd
            rw [continueFrom_of_endOfInput parsed,
              Parser.terms_of_endOfInput parsed]
            exact Or.inl ⟨.nothing sink, rfl⟩
          · rw [continueFrom_of_error atEnd parsed,
              Parser.terms_of_error atEnd parsed]
            exact Or.inl ⟨.nothing sink, rfl⟩

/-- A run shows what is read of its program and ends as the reading ends, as
long as the sink has room. -/
theorem ends_program (mode : Mode) (maxSteps : Nat) (sink : Sink) (log : Log)
    (source : String) :
    Ends (program mode maxSteps sink log source) sink
      ((sourceTerms source).1.flatMap (outputBytes mode maxSteps))
      (sourceTerms source).result := by
  rw [← sourceTerms_eq log source, program]
  cases Parser.start log source with
  | ok value parser =>
      exact ends_continueFrom mode maxSteps parser sink
  | error error left =>
      exact Or.inl ⟨.nothing sink, rfl⟩

/-- Without a limit a run shows all that is read of its program. -/
theorem program_unlimited (mode : Mode) (maxSteps : Nat) (log : Log)
    (source : String) :
    (program mode maxSteps .unlimited log source).sink.bytes =
        (sourceTerms source).1.flatMap (outputBytes mode maxSteps) ∧
      (program mode maxSteps .unlimited log source).result =
        (sourceTerms source).result := by
  rcases ends_program mode maxSteps .unlimited log source with
    ⟨takes, ended⟩ | ⟨⟨limit, limited, _⟩, _⟩
  · exact ⟨takes.bytes_eq, ended⟩
  · cases limited

end Run

end NumberedLambda
