import NumberedLambda.Proofs.Scanning.Lexemes
import NumberedLambda.Scanner.Stream

/-!
# The tokens of a text are its only division

Reading tokens one after the other divides a text into lexemes, and there is no
other way to divide it: every division with separated identifiers that leaves
nothing to be read is the one that the scanner finds. The offset is at each
point the end of what has been read, counted in bytes.
-/

namespace NumberedLambda

open Character
open Scanner (EndsIdentifier Reads)

/-! ## Lexemes one after the other -/

namespace Decomposition

/-- No token can be read of the rest: there are only blanks in it, or a
character stops it. -/
def Exhausted (rest : List Char) : Prop :=
  Complete rest ∨ ∃ character, StoppedBy rest character

theorem Exhausted.endsIdentifier {rest : List Char}
    (exhausted : Exhausted rest) : EndsIdentifier rest := by
  rcases exhausted with complete |
    ⟨character, blanks, later, rfl, blank, _, _, noIdentifier⟩
  · intro first others shape
    apply not_isIdentifierCharacter_of_isBlank
    apply complete
    rw [shape]
    exact List.mem_cons_self ..
  · cases blanks with
    | nil =>
        exact Scanner.endsIdentifier_cons noIdentifier
    | cons first others =>
        apply Scanner.endsIdentifier_cons
        apply not_isIdentifierCharacter_of_isBlank
        exact blank first (List.mem_cons_self ..)

theorem cons {lexeme : Lexeme} {text : List Char} {lexemes : List Lexeme}
    {rest : List Char} (stands : lexeme.StandsBefore text)
    (later : Decomposition text lexemes rest) :
    Decomposition (lexeme.spelling ++ text) (lexeme :: lexemes) rest where
  source_eq := by
    rw [List.flatMap_cons, List.append_assoc, ← later.source_eq]
  blank := by
    intro other member
    rcases List.mem_cons.mp member with rfl | inLater
    · exact stands.blank
    · exact later.blank other inLater
  written := by
    intro other member
    rcases List.mem_cons.mp member with rfl | inLater
    · exact stands.written
    · exact later.written other inLater
  separated := by
    intro first second inLexemes isFirst isSecond
    rcases List.infix_cons_iff.mp inLexemes with atFront | inLater
    · obtain ⟨rfl, others, rfl⟩ := List.cons_prefix_cons.mp atFront
      intro noBlanks
      -- Without a blank the first identifier would go on with the second one.
      obtain ⟨character, more, spelled, _, starts⟩ :=
        (later.written second (List.mem_cons_self ..)).exists_cons
      have shape : text = character ::
          (more ++ (others.flatMap Lexeme.spelling ++ rest)) := by
        rw [later.source_eq]
        simp [Lexeme.spelling, noBlanks, spelled]
      have ended := stands.ends isFirst character _ shape
      rw [starts, isSecond] at ended
      cases ended
    · exact later.separated first second inLater isFirst isSecond

theorem cons_inversion {source : List Char} {lexeme : Lexeme}
    {lexemes : List Lexeme} {rest : List Char}
    (decomposition : Decomposition source (lexeme :: lexemes) rest)
    (ends : EndsIdentifier rest) :
    ∃ text, source = lexeme.spelling ++ text ∧ lexeme.StandsBefore text ∧
      Decomposition text lexemes rest := by
  obtain ⟨shape, blank, written, separated⟩ := decomposition
  have blankLater := fun other (member : other ∈ lexemes) =>
    blank other (List.mem_cons_of_mem _ member)
  have writtenLater := fun other (member : other ∈ lexemes) =>
    written other (List.mem_cons_of_mem _ member)
  have separatedLater := fun first second inLater =>
    separated first second
      (List.IsInfix.trans inLater (List.suffix_cons _ _).isInfix)
  rw [List.flatMap_cons, List.append_assoc] at shape
  refine ⟨lexemes.flatMap Lexeme.spelling ++ rest, shape,
    ⟨blank lexeme (List.mem_cons_self ..),
      written lexeme (List.mem_cons_self ..), ?_⟩,
    ⟨rfl, blankLater, writtenLater, separatedLater⟩⟩
  intro isIdentifier
  cases lexemes with
  | nil =>
      exact ends
  | cons second others =>
      rw [List.flatMap_cons, Lexeme.spelling, List.append_assoc,
        List.append_assoc]
      cases shown : second.blanks with
      | nil =>
          obtain ⟨character, more, spelled, _, starts⟩ :=
            (writtenLater second (List.mem_cons_self ..)).exists_cons
          rw [spelled]
          apply Scanner.endsIdentifier_cons
          rw [starts, Bool.eq_false_iff]
          intro isSecond
          exact separated lexeme second ⟨[], others, rfl⟩ isIdentifier
            isSecond shown
      | cons first more =>
          apply Scanner.endsIdentifier_cons
          apply not_isIdentifierCharacter_of_isBlank
          apply blankLater second (List.mem_cons_self ..)
          rw [shown]
          exact List.mem_cons_self ..

end Decomposition

/-! ## Reading and dividing -/

namespace Scanner

open Decomposition (Complete Exhausted StoppedBy)

/-- Tokens that are read divide what is read. -/
theorem decomposition_of_reads {before after : Scanner}
    {tokens : List Token} (reads : Reads before tokens after)
    (unfinished : before.lookahead ≠ .endOfFile)
    (noEnd : .endOfFile ∉ tokens) :
    after.lookahead ≠ .endOfFile ∧
      ∃ lexemes, Decomposition before.rest lexemes after.rest ∧
        lexemes.map Lexeme.token = tokens := by
  induction reads with
  | nothing scanner =>
      exact ⟨unfinished, [], .nil scanner.rest, rfl⟩
  | @token before between after tokens read later inductionHypothesis =>
      rw [List.mem_cons, not_or] at noEnd
      have stillUnfinished : between.lookahead ≠ .endOfFile :=
        Ne.symm noEnd.1
      obtain ⟨lexeme, shown, shape, stands⟩ :=
        exists_standsBefore_of_advance unfinished read stillUnfinished
      obtain ⟨unfinishedAfter, lexemes, decomposition, sameTokens⟩ :=
        inductionHypothesis stillUnfinished noEnd.2
      refine ⟨unfinishedAfter, lexeme :: lexemes, ?_, ?_⟩
      · rw [shape]
        exact .cons stands decomposition
      · rw [List.map_cons, shown, sameTokens]

/-- The first lexemes of a division are read as their tokens. -/
theorem reads_of_decomposition {before : Scanner}
    {scanned later : List Lexeme} {rest : List Char}
    (unfinished : before.lookahead ≠ .endOfFile)
    (decomposition : Decomposition before.rest (scanned ++ later) rest)
    (ends : EndsIdentifier rest) :
    ∃ after, Reads before (scanned.map Lexeme.token) after ∧
      after.rest = later.flatMap Lexeme.spelling ++ rest ∧
      after.lookahead ≠ .endOfFile := by
  induction scanned generalizing before with
  | nil =>
      exact ⟨before, .nothing before, decomposition.source_eq, unfinished⟩
  | cons lexeme others inductionHypothesis =>
      obtain ⟨text, shape, stands, laterDecomposition⟩ :=
        decomposition.cons_inversion ends
      obtain ⟨between, read, shown, atText⟩ :=
        exists_advance_of_standsBefore unfinished shape stands
      have stillUnfinished : between.lookahead ≠ .endOfFile := by
        rw [shown]
        exact stands.written.ne_endOfFile
      rw [← atText] at laterDecomposition
      obtain ⟨after, reads, left, unfinishedAfter⟩ :=
        inductionHypothesis stillUnfinished laterDecomposition
      refine ⟨after, ?_, left, unfinishedAfter⟩
      rw [List.map_cons, ← shown]
      exact .token read reads

/-- All lexemes of a division are read, and the rest is left. -/
theorem exists_reads_of_decomposition {before : Scanner}
    {lexemes : List Lexeme} {rest : List Char}
    (unfinished : before.lookahead ≠ .endOfFile)
    (decomposition : Decomposition before.rest lexemes rest)
    (ends : EndsIdentifier rest) :
    ∃ after, Reads before (lexemes.map Lexeme.token) after ∧
      after.rest = rest ∧ after.lookahead ≠ .endOfFile := by
  have allScanned : Decomposition before.rest (lexemes ++ []) rest := by
    rwa [List.append_nil]
  exact reads_of_decomposition unfinished allScanned ends

/-! ## There is one division -/

/-- Every text is divided up to a rest of which nothing can be read. -/
theorem exists_decomposition (scanner : Scanner)
    (unfinished : scanner.lookahead ≠ .endOfFile) :
    ∃ lexemes rest, Decomposition scanner.rest lexemes rest ∧
      Exhausted rest := by
  induction measured : scanner.remaining using Nat.strongRecOn
    generalizing scanner with
  | ind size inductionHypothesis =>
      subst measured
      cases read : scanner.advance with
      | error error left =>
          obtain ⟨character⟩ := error
          exact ⟨[], scanner.rest, .nil scanner.rest,
            Or.inr ⟨character, stoppedBy_of_advance read⟩⟩
      | ok value after =>
          by_cases atEnd : after.lookahead = .endOfFile
          · have complete :=
              isBlank_of_lookahead_eq_endOfFile unfinished read atEnd
            exact ⟨[], scanner.rest, .nil scanner.rest, Or.inl complete⟩
          · obtain ⟨lexeme, _, shape, stands⟩ :=
              exists_standsBefore_of_advance unfinished read atEnd
            obtain ⟨lexemes, rest, decomposition, exhausted⟩ :=
              inductionHypothesis _ (remaining_lt_of_advance unfinished read)
                after atEnd rfl
            refine ⟨lexeme :: lexemes, rest, ?_, exhausted⟩
            rw [shape]
            exact .cons stands decomposition

/-- No lexeme stands in front of a rest of which nothing can be read. -/
theorem not_exhausted_of_standsBefore {lexeme : Lexeme} {text : List Char}
    (stands : lexeme.StandsBefore text) :
    ¬ Exhausted (lexeme.spelling ++ text) := by
  let scanner : Scanner := ⟨lexeme.spelling ++ text, 0, .startOfFile⟩
  have unfinished : scanner.lookahead ≠ .endOfFile := Token.noConfusion
  obtain ⟨after, read, shown, _⟩ :=
    exists_advance_of_standsBefore unfinished rfl stands
  rintro (complete | ⟨character, stopped⟩)
  · have blank : ∀ character ∈ scanner.rest, isBlank character = true :=
      complete
    obtain ⟨other, readOther, atEnd⟩ :=
      exists_advance_of_isBlank unfinished blank
    cases read.symm.trans readOther
    exact stands.written.ne_endOfFile (shown.symm.trans atEnd)
  · have stopped : StoppedBy scanner.rest character := stopped
    obtain ⟨left, failed⟩ := exists_advance_of_stoppedBy unfinished stopped
    cases read.symm.trans failed

/-- The lexeme in front of a text is determined by the text. -/
theorem standsBefore_unique {first second : Lexeme}
    {firstText secondText : List Char}
    (firstStands : first.StandsBefore firstText)
    (secondStands : second.StandsBefore secondText)
    (same : first.spelling ++ firstText = second.spelling ++ secondText) :
    first = second ∧ firstText = secondText := by
  let scanner : Scanner := ⟨first.spelling ++ firstText, 0, .startOfFile⟩
  have unfinished : scanner.lookahead ≠ .endOfFile := Token.noConfusion
  obtain ⟨after, read, shown, left⟩ :=
    exists_advance_of_standsBefore unfinished rfl firstStands
  obtain ⟨other, readOther, otherShown, otherLeft⟩ :=
    exists_advance_of_standsBefore unfinished same secondStands
  cases read.symm.trans readOther
  have sameToken : first.token = second.token := shown.symm.trans otherShown
  have sameText : firstText = secondText := left.symm.trans otherLeft
  rw [Lexeme.spelling, Lexeme.spelling, sameToken, sameText] at same
  have sameBlanks : first.blanks = second.blanks :=
    List.append_cancel_right (List.append_cancel_right same)
  obtain ⟨firstBlanks, firstToken⟩ := first
  obtain ⟨secondBlanks, secondToken⟩ := second
  cases sameToken
  cases sameBlanks
  exact ⟨rfl, sameText⟩

theorem decomposition_unique {source : List Char}
    {first second : List Lexeme} {firstRest secondRest : List Char}
    (firstDivision : Decomposition source first firstRest)
    (firstExhausted : Exhausted firstRest)
    (secondDivision : Decomposition source second secondRest)
    (secondExhausted : Exhausted secondRest) :
    first = second ∧ firstRest = secondRest := by
  induction first generalizing source second with
  | nil =>
      have atRest : source = firstRest := firstDivision.source_eq
      subst atRest
      cases second with
      | nil =>
          exact ⟨rfl, secondDivision.source_eq⟩
      | cons lexeme lexemes =>
          obtain ⟨text, rfl, stands, _⟩ :=
            secondDivision.cons_inversion secondExhausted.endsIdentifier
          exact absurd firstExhausted (not_exhausted_of_standsBefore stands)
  | cons lexeme lexemes inductionHypothesis =>
      obtain ⟨text, rfl, stands, later⟩ :=
        firstDivision.cons_inversion firstExhausted.endsIdentifier
      cases second with
      | nil =>
          have atRest : lexeme.spelling ++ text = secondRest :=
            secondDivision.source_eq
          subst atRest
          exact absurd secondExhausted (not_exhausted_of_standsBefore stands)
      | cons other others =>
          obtain ⟨otherText, same, otherStands, otherLater⟩ :=
            secondDivision.cons_inversion secondExhausted.endsIdentifier
          obtain ⟨rfl, rfl⟩ := standsBefore_unique stands otherStands same
          obtain ⟨rfl, rfl⟩ := inductionHypothesis later otherLater
          exact ⟨rfl, rfl⟩

/-! ## The offset -/

theorem byteLength_eq_utf8ByteSize (text : List Char) :
    byteLength text = (String.ofList text).utf8ByteSize := by
  induction text with
  | nil =>
      rfl
  | cons character later inductionHypothesis =>
      rw [byteLength, inductionHypothesis, String.ofList_cons,
        String.utf8ByteSize_append, String.utf8ByteSize_singleton]

/-- A position lies at the end of a character of the source text, or at its
beginning. -/
theorem PositionIn.isValid {source : String} {scanner : Scanner}
    (position : scanner.PositionIn source.toList) :
    String.Pos.Raw.IsValid source ⟨scanner.offset⟩ := by
  obtain ⟨passed, shape, offset⟩ := position
  apply String.Pos.Raw.isValid_iff_exists_append.mpr
  refine ⟨String.ofList passed, String.ofList scanner.rest, ?_, ?_⟩
  · rw [← String.ofList_append, ← shape, String.ofList_toList]
  · rw [offset, byteLength_eq_utf8ByteSize]
    rfl

theorem PositionIn.reads {source : List Char} {before after : Scanner}
    {tokens : List Token} (position : before.PositionIn source)
    (reads : Reads before tokens after) : after.PositionIn source := by
  induction reads with
  | nothing scanner =>
      exact position
  | token read later inductionHypothesis =>
      exact inductionHypothesis (position.advance read)

theorem PositionIn.offset_eq {passed : List Char} {scanner : Scanner}
    (position : scanner.PositionIn (passed ++ scanner.rest)) :
    scanner.offset = byteLength passed := by
  obtain ⟨others, shape, offset⟩ := position
  rw [offset, List.append_cancel_right shape]

/-! ## Source texts -/

theorem unfinished_ofSource (source : String) :
    (ofSource source).lookahead ≠ .endOfFile :=
  Token.noConfusion

/-- The tokens of a whole source text are read exactly if the text is divided
into them and final blanks. -/
theorem reads_to_end_iff (source : String) (tokens : List Token) :
    (.endOfFile ∉ tokens ∧
        ∃ after, Reads (ofSource source) (tokens ++ [.endOfFile]) after) ↔
      ∃ lexemes rest, Decomposition source.toList lexemes rest ∧
        Complete rest ∧ lexemes.map Lexeme.token = tokens := by
  have begun := unfinished_ofSource source
  constructor
  · rintro ⟨noEnd, after, reads⟩
    obtain ⟨between, readsTokens, readsEnd⟩ := reads.append_inversion
    obtain ⟨unfinished, lexemes, decomposition, sameTokens⟩ :=
      decomposition_of_reads readsTokens begun noEnd
    obtain ⟨next, read, atEnd, _⟩ := readsEnd.cons_inversion
    exact ⟨lexemes, between.rest, decomposition,
      isBlank_of_lookahead_eq_endOfFile unfinished read atEnd, sameTokens⟩
  · rintro ⟨lexemes, rest, decomposition, complete, rfl⟩
    have exhausted : Exhausted rest := Or.inl complete
    obtain ⟨between, reads, left, unfinished⟩ :=
      exists_reads_of_decomposition begun decomposition
        exhausted.endsIdentifier
    rw [← left] at complete
    obtain ⟨after, read, atEnd⟩ :=
      exists_advance_of_isBlank unfinished complete
    refine ⟨?_, after, reads.append ?_⟩
    · intro member
      obtain ⟨lexeme, inLexemes, isEnd⟩ := List.mem_map.mp member
      exact (decomposition.written lexeme inLexemes).ne_endOfFile isEnd
    · rw [← atEnd]
      exact .token read (.nothing after)

/-- The tokens up to a character are read exactly if the text is divided into
them, blanks, that character, which begins no token, and anything after it. -/
theorem reads_to_character_iff (source : String) (tokens : List Token)
    (character : Char) :
    (∃ between left, Reads (ofSource source) tokens between ∧
        between.advance = .error (.unhandledCharacter character) left) ↔
      ∃ lexemes rest, Decomposition source.toList lexemes rest ∧
        StoppedBy rest character ∧ lexemes.map Lexeme.token = tokens := by
  have begun := unfinished_ofSource source
  constructor
  · rintro ⟨between, left, reads, failed⟩
    have noEnd : .endOfFile ∉ tokens := by
      intro member
      have finished := reads.lookahead_of_endOfFile_mem member
      rw [advance_of_endOfFile finished] at failed
      cases failed
    obtain ⟨_, lexemes, decomposition, sameTokens⟩ :=
      decomposition_of_reads reads begun noEnd
    exact ⟨lexemes, between.rest, decomposition, stoppedBy_of_advance failed,
      sameTokens⟩
  · rintro ⟨lexemes, rest, decomposition, stopped, rfl⟩
    have exhausted : Exhausted rest := Or.inr ⟨character, stopped⟩
    obtain ⟨between, reads, atRest, unfinished⟩ :=
      exists_reads_of_decomposition begun decomposition
        exhausted.endsIdentifier
    rw [← atRest] at stopped
    obtain ⟨left, failed⟩ := exists_advance_of_stoppedBy unfinished stopped
    exact ⟨between, left, reads, failed⟩

/-- Reading the first tokens of a division leads to the end of the last one of
them. -/
theorem offset_of_decomposition {source : String}
    {scanned later : List Lexeme} {rest : List Char} {scanner : Scanner}
    (decomposition : Decomposition source.toList (scanned ++ later) rest)
    (exhausted : Exhausted rest)
    (reads : Reads (ofSource source) (scanned.map Lexeme.token) scanner) :
    scanner.offset = byteLength (scanned.flatMap Lexeme.spelling) := by
  obtain ⟨after, readsAgain, left, _⟩ :=
    reads_of_decomposition (unfinished_ofSource source) decomposition
      exhausted.endsIdentifier
  obtain ⟨_, rfl⟩ := reads.unique readsAgain rfl
  have position := (positionIn_ofSource source).reads reads
  apply PositionIn.offset_eq
  rwa [left, ← List.append_assoc, ← List.flatMap_append,
    ← decomposition.source_eq]

/-- Every source text has exactly one division into lexemes that leaves nothing
to be read, and the tokens that are read are the tokens of this division: all
of them and then the end of the text if only blanks are left, all of them and
then an error if a character that begins no token is left. After each token the
offset is where the token ends, a position between characters of the text. -/
theorem reads_the_only_division (source : String) :
    (∀ tokens,
      (.endOfFile ∉ tokens ∧
          ∃ after, Reads (ofSource source) (tokens ++ [.endOfFile]) after) ↔
        ∃ lexemes rest, Decomposition source.toList lexemes rest ∧
          Complete rest ∧ lexemes.map Lexeme.token = tokens) ∧
    (∀ tokens character,
      (∃ between left, Reads (ofSource source) tokens between ∧
          between.advance = .error (.unhandledCharacter character) left) ↔
        ∃ lexemes rest, Decomposition source.toList lexemes rest ∧
          StoppedBy rest character ∧ lexemes.map Lexeme.token = tokens) ∧
    ∃ lexemes rest, Decomposition source.toList lexemes rest ∧
      Exhausted rest ∧
      (∀ others otherRest, Decomposition source.toList others otherRest →
        Exhausted otherRest → others = lexemes ∧ otherRest = rest) ∧
      ∀ scanned later scanner, lexemes = scanned ++ later →
        Reads (ofSource source) (scanned.map Lexeme.token) scanner →
        scanner.offset = byteLength (scanned.flatMap Lexeme.spelling) ∧
          scanner.offset ≤ source.utf8ByteSize ∧
          String.Pos.Raw.IsValid source ⟨scanner.offset⟩ := by
  refine ⟨reads_to_end_iff source, reads_to_character_iff source, ?_⟩
  obtain ⟨lexemes, rest, decomposition, exhausted⟩ :=
    exists_decomposition (ofSource source) (unfinished_ofSource source)
  refine ⟨lexemes, rest, decomposition, exhausted, ?_, ?_⟩
  · intro others otherRest otherDecomposition otherExhausted
    exact decomposition_unique otherDecomposition otherExhausted
      decomposition exhausted
  · rintro scanned later scanner rfl reads
    have valid := ((positionIn_ofSource source).reads reads).isValid
    exact ⟨offset_of_decomposition decomposition exhausted reads,
      valid.le_rawEndPos, valid⟩

end Scanner

end NumberedLambda
