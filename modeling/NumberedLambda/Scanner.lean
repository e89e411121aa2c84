import NumberedLambda.Character.Quoted
import NumberedLambda.Token

/-!
# The scanner

A scanner stands between two tokens of a source text. It shows the token that
was read last as its lookahead and reads the next one only on demand. Blanks
before a token are passed over, an identifier takes as many characters as it
can, and a character that begins no token stops the scanner for good: the
lookahead stays, and every later attempt meets the same character.

The main facts are that reading a token uses up part of what remains
(`remaining_lt_of_advance`) and that the offset counts the bytes that have
been passed (`PositionIn.advance`).
-/

namespace NumberedLambda

open Character

/-- The reason for which a source text cannot be divided into tokens. -/
inductive LexicalError where
  | unhandledCharacter (character : Char)
deriving DecidableEq, Repr

namespace LexicalError

/-- The wording of a lexical error. -/
def message : LexicalError → String
  | .unhandledCharacter character =>
      "unhandled character " ++ quoted character ++ " in source text"

end LexicalError

/-- A position in a source text: the characters that have not been read, the
number of bytes before them, and the token that was read last. -/
structure Scanner where
  rest : List Char
  offset : Nat
  lookahead : Token
deriving DecidableEq, Repr

namespace Scanner

/-- The scanner in front of a source text, before its first token. -/
def ofSource (source : String) : Scanner where
  rest := source.toList
  offset := 0
  lookahead := .startOfFile

/-- The number of bytes that a text takes in UTF-8. -/
def byteLength : List Char → Nat
  | [] => 0
  | character :: later => character.utf8Size + byteLength later

/-- Pass over the blanks in front of the next token. -/
def skipBlanks (scanner : Scanner) : Scanner where
  rest := scanner.rest.dropWhile isBlank
  offset := scanner.offset + byteLength (scanner.rest.takeWhile isBlank)
  lookahead := scanner.lookahead

/-- Read the token that the unread characters begin with, no blank in
front. -/
def readToken (scanner : Scanner) :
    EStateM.Result LexicalError Scanner Unit :=
  match scanner.rest with
  | [] => .ok () { scanner with lookahead := .endOfFile }
  | character :: later =>
      match Token.ofSymbol? character with
      | some token =>
          .ok ()
            { rest := later
              offset := scanner.offset + character.utf8Size
              lookahead := token }
      | none =>
          if isIdentifierCharacter character then
            let text := scanner.rest.takeWhile isIdentifierCharacter
            .ok ()
              { rest := scanner.rest.dropWhile isIdentifierCharacter
                offset := scanner.offset + byteLength text
                lookahead := .identifier (String.ofList text) }
          else
            .error (.unhandledCharacter character) scanner

/-- Give up the lookahead and read the token after it. At the end of the text
nothing is read any more. After an error the lookahead is the old one. -/
def advance (scanner : Scanner) :
    EStateM.Result LexicalError Scanner Unit :=
  if scanner.lookahead = .endOfFile then
    .ok () scanner
  else
    scanner.skipBlanks.readToken

/-! ## What remains to be read -/

/-- An upper bound on the number of tokens that can still be read: one for
each unread character, and one for the end of the text. -/
def remaining (scanner : Scanner) : Nat :=
  scanner.rest.length + if scanner.lookahead = .endOfFile then 0 else 1

private theorem length_dropWhile_le (test : Char → Bool) :
    ∀ text : List Char, (text.dropWhile test).length ≤ text.length
  | [] => Nat.le_refl 0
  | character :: later => by
      rw [List.dropWhile_cons]
      split
      · exact Nat.le_succ_of_le (length_dropWhile_le test later)
      · exact Nat.le_refl _

@[simp]
theorem lookahead_skipBlanks (scanner : Scanner) :
    scanner.skipBlanks.lookahead = scanner.lookahead :=
  rfl

theorem remaining_skipBlanks_le (scanner : Scanner) :
    scanner.skipBlanks.remaining ≤ scanner.remaining := by
  have shorter := length_dropWhile_le isBlank scanner.rest
  simp only [remaining, skipBlanks]
  exact Nat.add_le_add_right shorter _

private theorem remaining_lt_of_readToken
    {scanner after : Scanner}
    (unfinished : scanner.lookahead ≠ .endOfFile)
    (read : scanner.readToken = .ok () after) :
    after.remaining < scanner.remaining := by
  unfold readToken at read
  split at read
  · cases read
    simp [remaining, unfinished]
  · rename_i character later nonempty
    split at read
    · cases read
      simp only [remaining, nonempty, unfinished, if_false,
        List.length_cons]
      split <;> omega
    · split at read
      · rename_i starts
        cases read
        have shorter := length_dropWhile_le isIdentifierCharacter later
        simp only [remaining, nonempty, unfinished, if_false,
          List.length_cons, List.dropWhile_cons, starts, if_true,
          reduceCtorEq]
        omega
      · cases read

theorem eq_of_readToken_error
    {scanner after : Scanner} {error : LexicalError}
    (read : scanner.readToken = .error error after) :
    after = scanner := by
  unfold readToken at read
  split at read
  · cases read
  · split at read
    · cases read
    · split at read
      · cases read
      · cases read
        rfl

/-- Reading a token, or the end of the text, uses up what remains. -/
theorem remaining_lt_of_advance
    {scanner after : Scanner}
    (unfinished : scanner.lookahead ≠ .endOfFile)
    (read : scanner.advance = .ok () after) :
    after.remaining < scanner.remaining := by
  rw [advance, if_neg unfinished] at read
  have stillUnfinished : scanner.skipBlanks.lookahead ≠ .endOfFile :=
    unfinished
  exact Nat.lt_of_lt_of_le
    (remaining_lt_of_readToken stillUnfinished read)
    scanner.remaining_skipBlanks_le

/-- An attempt that fails does not give anything back. -/
theorem remaining_le_of_advance_error
    {scanner after : Scanner} {error : LexicalError}
    (read : scanner.advance = .error error after) :
    after.remaining ≤ scanner.remaining := by
  unfold advance at read
  split at read
  · cases read
  · rw [eq_of_readToken_error read]
    exact scanner.remaining_skipBlanks_le

/-- An attempt that fails leaves the lookahead as it was. -/
theorem lookahead_of_advance_error
    {scanner after : Scanner} {error : LexicalError}
    (read : scanner.advance = .error error after) :
    after.lookahead = scanner.lookahead := by
  unfold advance at read
  split at read
  · cases read
  · rw [eq_of_readToken_error read, lookahead_skipBlanks]

/-- At the end of the text there is nothing left to read. -/
theorem advance_of_endOfFile
    {scanner : Scanner}
    (finished : scanner.lookahead = .endOfFile) :
    scanner.advance = .ok () scanner := by
  rw [advance, if_pos finished]

/-! ## The offset -/

theorem byteLength_append (left right : List Char) :
    byteLength (left ++ right) = byteLength left + byteLength right := by
  induction left with
  | nil =>
      simp [byteLength]
  | cons character later inductionHypothesis =>
      simp [byteLength, inductionHypothesis, Nat.add_assoc]

/-- The offset is the length of the part of `source` that has been read. -/
def PositionIn (source : List Char) (scanner : Scanner) : Prop :=
  ∃ passed,
    source = passed ++ scanner.rest ∧ scanner.offset = byteLength passed

theorem positionIn_ofSource (source : String) :
    (ofSource source).PositionIn source.toList :=
  ⟨[], rfl, rfl⟩

theorem PositionIn.skipBlanks
    {source : List Char} {scanner : Scanner}
    (position : scanner.PositionIn source) :
    scanner.skipBlanks.PositionIn source := by
  obtain ⟨passed, shape, offset⟩ := position
  refine ⟨passed ++ scanner.rest.takeWhile isBlank, ?_, ?_⟩
  · simp only [Scanner.skipBlanks, List.append_assoc,
      List.takeWhile_append_dropWhile]
    exact shape
  · simp only [Scanner.skipBlanks, byteLength_append, offset]

private theorem positionIn_of_readToken
    {source : List Char} {scanner after : Scanner}
    (position : scanner.PositionIn source)
    (read : scanner.readToken = .ok () after) :
    after.PositionIn source := by
  obtain ⟨passed, shape, offset⟩ := position
  unfold readToken at read
  split at read
  · cases read
    exact ⟨passed, shape, offset⟩
  · rename_i character later nonempty
    split at read
    · cases read
      exact ⟨passed ++ [character], by simp [shape, nonempty],
        by simp [byteLength_append, byteLength, offset]⟩
    · split at read
      · cases read
        refine ⟨passed ++ scanner.rest.takeWhile isIdentifierCharacter,
          ?_, ?_⟩
        · simp only [List.append_assoc, List.takeWhile_append_dropWhile]
          exact shape
        · simp only [byteLength_append, offset]
      · cases read

/-- The offset stays the length of the part that has been read. -/
theorem PositionIn.advance
    {source : List Char} {scanner after : Scanner}
    (position : scanner.PositionIn source)
    (read : scanner.advance = .ok () after) :
    after.PositionIn source := by
  unfold Scanner.advance at read
  split at read
  · cases read
    exact position
  · exact positionIn_of_readToken position.skipBlanks read

end Scanner

end NumberedLambda
