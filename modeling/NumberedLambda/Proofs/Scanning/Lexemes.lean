import NumberedLambda.Proofs.Scanning.LastLine
import NumberedLambda.Proofs.Scanning.Spelling
import NumberedLambda.Scanner.Decomposition

/-!
# Reading one lexeme

What one attempt to read a token does is determined by the characters in front
of the scanner: a lexeme that is not continued by them is read as its token,
blanks alone are read as the end of the text, and a character that begins no
token stops the scanner. In each case the converse holds as well.
-/

namespace NumberedLambda

open Character

/-! ## The first character of a token -/

namespace Token

theorem ofSymbol?_eq_none_iff {character : Char} :
    ofSymbol? character = none ↔ isSymbol character = false := by
  rw [Bool.eq_false_iff]
  constructor
  · intro noToken symbol
    rcases (isSymbol_iff character).mp symbol with
      rfl | rfl | rfl | rfl | rfl <;> cases noToken
  · intro noSymbol
    rw [Option.eq_none_iff_forall_ne_some]
    intro token found
    exact noSymbol (Scanner.isSymbol_of_ofSymbol? found)

theorem isIdentifier_of_ofSymbol? {character : Char} {token : Token}
    (symbol : ofSymbol? character = some token) :
    token.isIdentifier = false := by
  unfold ofSymbol? at symbol
  split at symbol <;> cases symbol <;> rfl

namespace Written

variable {token : Token}

theorem ne_endOfFile (written : token.Written) : token ≠ .endOfFile := by
  rcases written with ⟨character, symbol⟩ | ⟨text, rfl, _⟩
  · exact Scanner.ne_endOfFile_of_ofSymbol? symbol
  · exact Token.noConfusion

/-- A token that is written begins with a character that is no blank, and with
an identifier character exactly if it is an identifier. -/
theorem exists_cons (written : token.Written) :
    ∃ first later, token.spelling = first :: later ∧
      isBlank first = false ∧
      isIdentifierCharacter first = token.isIdentifier := by
  rcases written with ⟨character, symbol⟩ | ⟨text, rfl, something, allowed⟩
  · have isASymbol := Scanner.isSymbol_of_ofSymbol? symbol
    refine ⟨character, [], spelling_of_ofSymbol? symbol, ?_, ?_⟩
    · rw [Bool.eq_false_iff]
      intro blank
      rw [not_isSymbol_of_isBlank blank] at isASymbol
      cases isASymbol
    · rw [isIdentifier_of_ofSymbol? symbol]
      exact not_isIdentifierCharacter_of_isSymbol isASymbol
  · obtain ⟨first, later, shape⟩ := List.exists_cons_of_ne_nil something
    have inIdentifier : isIdentifierCharacter first = true := by
      apply allowed
      rw [shape]
      exact List.mem_cons_self ..
    refine ⟨first, later, shape, ?_, inIdentifier⟩
    rw [Bool.eq_false_iff]
    intro blank
    rw [not_isIdentifierCharacter_of_isBlank blank] at inIdentifier
    cases inIdentifier

end Written

end Token

/-- A lexeme stands before a text that does not continue it. -/
structure Lexeme.StandsBefore (lexeme : Lexeme) (later : List Char) :
    Prop where
  blank : ∀ character ∈ lexeme.blanks, isBlank character = true
  written : lexeme.token.Written
  ends : lexeme.token.isIdentifier = true → Scanner.EndsIdentifier later

namespace Scanner

/-! ## A token -/

/-- Blanks in front change nothing but the offset. -/
theorem advance_of_blanks {scanner : Scanner} {blanks later : List Char}
    (unfinished : scanner.lookahead ≠ .endOfFile)
    (shape : scanner.rest = blanks ++ later)
    (blank : ∀ character ∈ blanks, isBlank character = true) :
    scanner.advance =
      advance
        { rest := later
          offset := scanner.offset + byteLength blanks
          lookahead := scanner.lookahead } := by
  induction blanks generalizing scanner with
  | nil =>
      rw [List.nil_append] at shape
      subst shape
      rfl
  | cons character others inductionHypothesis =>
      have othersBlank : ∀ other ∈ others, isBlank other = true :=
        fun other member => blank other (List.mem_cons_of_mem _ member)
      rw [advance_of_blank unfinished shape
        (blank character (List.mem_cons_self ..)), byteLength,
        ← Nat.add_assoc]
      exact inductionHypothesis unfinished rfl othersBlank

/-- A lexeme in front of the scanner is read as its token. -/
theorem exists_advance_of_standsBefore {scanner : Scanner}
    {lexeme : Lexeme} {later : List Char}
    (unfinished : scanner.lookahead ≠ .endOfFile)
    (shape : scanner.rest = lexeme.spelling ++ later)
    (stands : lexeme.StandsBefore later) :
    ∃ after, scanner.advance = .ok () after ∧
      after.lookahead = lexeme.token ∧ after.rest = later := by
  rw [Lexeme.spelling, List.append_assoc] at shape
  rw [advance_of_blanks unfinished shape stands.blank]
  rcases stands.written with ⟨character, symbol⟩ |
    ⟨text, isText, something, allowed⟩
  · rw [Token.spelling_of_ofSymbol? symbol]
    exact exists_advance_of_symbol unfinished rfl symbol
  · have ends : EndsIdentifier later := by
      apply stands.ends
      rw [isText]
      rfl
    rw [isText, ← String.ofList_toList (s := text)]
    rw [Token.spelling, String.toList_ofList]
    exact exists_advance_of_identifier unfinished rfl something allowed ends

theorem endsIdentifier_dropWhile (text : List Char) :
    EndsIdentifier (text.dropWhile isIdentifierCharacter) := by
  intro character later shape
  have stops := List.head?_dropWhile_not isIdentifierCharacter text
  rw [shape] at stops
  exact stops

private theorem written_of_readToken {scanner after : Scanner}
    (read : scanner.readToken = .ok () after)
    (notAtEnd : after.lookahead ≠ .endOfFile) :
    after.lookahead.Written ∧
      (after.lookahead.isIdentifier = true → EndsIdentifier after.rest) ∧
      scanner.rest = after.lookahead.spelling ++ after.rest := by
  unfold readToken at read
  split at read
  · cases read
    exact absurd rfl notAtEnd
  · rename_i character later shape
    split at read
    · rename_i token symbol
      cases read
      refine ⟨Or.inl ⟨character, symbol⟩, ?_, ?_⟩
      · intro isIdentifier
        have noIdentifier := Token.isIdentifier_of_ofSymbol? symbol
        cases noIdentifier.symm.trans isIdentifier
      · rw [shape, Token.spelling_of_ofSymbol? symbol]
        rfl
    · split at read
      · rename_i starts
        cases read
        refine ⟨Or.inr ⟨_, rfl, ?_, ?_⟩, ?_, ?_⟩
        · rw [String.toList_ofList, shape, List.takeWhile_cons, starts]
          exact List.cons_ne_nil _ _
        · rw [String.toList_ofList]
          exact List.all_eq_true.mp List.all_takeWhile
        · intro _
          exact endsIdentifier_dropWhile scanner.rest
        · rw [Token.spelling, String.toList_ofList,
            List.takeWhile_append_dropWhile]
      · cases read

/-- Where a token is read, its lexeme stood in front of the scanner. -/
theorem exists_standsBefore_of_advance {scanner after : Scanner}
    (unfinished : scanner.lookahead ≠ .endOfFile)
    (read : scanner.advance = .ok () after)
    (notAtEnd : after.lookahead ≠ .endOfFile) :
    ∃ lexeme : Lexeme, lexeme.token = after.lookahead ∧
      scanner.rest = lexeme.spelling ++ after.rest ∧
      lexeme.StandsBefore after.rest := by
  rw [advance, if_neg unfinished] at read
  obtain ⟨written, ends, shape⟩ := written_of_readToken read notAtEnd
  refine ⟨⟨scanner.rest.takeWhile isBlank, after.lookahead⟩, rfl, ?_, ?_⟩
  · rw [Lexeme.spelling, List.append_assoc, ← shape]
    exact List.takeWhile_append_dropWhile.symm
  · exact ⟨List.all_eq_true.mp List.all_takeWhile, written, ends⟩

/-! ## A character that begins no token -/

theorem exists_advance_of_stoppedBy {scanner : Scanner} {character : Char}
    (unfinished : scanner.lookahead ≠ .endOfFile)
    (stopped : Decomposition.StoppedBy scanner.rest character) :
    ∃ left,
      scanner.advance = .error (.unhandledCharacter character) left := by
  obtain ⟨blanks, later, shape, blank, noBlank, noSymbol, noIdentifier⟩ :=
    stopped
  have noToken := Token.ofSymbol?_eq_none_iff.mpr noSymbol
  have atCharacter : scanner.skipBlanks.rest = character :: later := by
    rw [skipBlanks, shape, List.dropWhile_append_of_pos blank,
      List.dropWhile_cons, noBlank]
    rfl
  refine ⟨scanner.skipBlanks, ?_⟩
  rw [advance, if_neg unfinished]
  simp only [readToken, atCharacter, noToken, noIdentifier]
  rfl

theorem stoppedBy_of_advance {scanner left : Scanner} {character : Char}
    (read : scanner.advance = .error (.unhandledCharacter character) left) :
    Decomposition.StoppedBy scanner.rest character := by
  unfold advance at read
  split at read
  · cases read
  · unfold readToken at read
    split at read
    · cases read
    · rename_i first later shape
      split at read
      · cases read
      · rename_i noToken
        split at read
        · cases read
        · rename_i noIdentifier
          cases read
          have stops := List.head?_dropWhile_not isBlank scanner.rest
          have shape : scanner.rest.dropWhile isBlank = character :: later :=
            shape
          rw [shape] at stops
          refine ⟨scanner.rest.takeWhile isBlank, later, ?_,
            List.all_eq_true.mp List.all_takeWhile, stops,
            Token.ofSymbol?_eq_none_iff.mp noToken,
            Bool.eq_false_iff.mpr noIdentifier⟩
          rw [← shape, List.takeWhile_append_dropWhile]

end Scanner

end NumberedLambda
