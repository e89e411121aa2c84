import NumberedLambda.Proofs.Scanning.Passage
import NumberedLambda.SourceLines

/-!
# Texts that go on

A text may be the beginning of a longer one that goes on, after a newline, with
a further text. A scanner in the longer text shows the same tokens as a scanner
in the beginning alone, until the latter shows the end of its text; the former
then shows the newline. Nothing of what follows the newline has been looked at
by that time. A text that does not go on is the other case treated here: it
says that tokens do not depend on the bytes counted before them.
-/

namespace NumberedLambda

open Character

/-- A token as it is shown where a further text follows the newline after the
text. -/
def Token.followedBy (following : Option (List Char)) : Token → Token
  | .endOfFile => if following.isSome then .newLine else .endOfFile
  | token => token

namespace Token

variable {following : Option (List Char)} {token : Token}

theorem followedBy_none (token : Token) : token.followedBy none = token := by
  cases token <;> rfl

theorem followedBy_of_ne (unfinished : token ≠ .endOfFile) :
    token.followedBy following = token := by
  cases token <;> first | rfl | exact absurd rfl unfinished

theorem followedBy_ne_iff {other : Token} (noEnd : other ≠ .endOfFile)
    (noNewLine : other ≠ .newLine) :
    token.followedBy following ≠ other ↔ token ≠ other := by
  by_cases atEnd : token = .endOfFile
  · subst atEnd
    rw [followedBy]
    split
    · exact iff_of_true noNewLine.symm noEnd.symm
    · rfl
  · rw [followedBy_of_ne atEnd]

end Token

/-- An error as it is reported where a further text follows. -/
def ParseError.followedBy (following : Option (List Char))
    (error : ParseError) : ParseError :=
  error.mapFound (Token.followedBy following)

theorem ParseError.followedBy_none (error : ParseError) :
    error.followedBy none = error := by
  have kept : Token.followedBy none = id :=
    funext Token.followedBy_none
  rw [followedBy, kept]
  cases error <;> rfl

theorem ParseError.followedBy_some (text : List Char) (error : ParseError) :
    error.followedBy (some text) = error.beforeNextLine := by
  have changed : Token.followedBy (some text) =
      fun found => if found = .endOfFile then .newLine else found := by
    funext token
    cases token <;> rfl
  rw [followedBy, changed, beforeNextLine]

namespace Scanner

/-- The characters behind a text that does or does not go on. -/
def behind : Option (List Char) → List Char
  | none => []
  | some text => '\n' :: text

/-- A scanner `longer` stands in a text as `shorter` does in the beginning of
that text, behind which there is `following`. -/
structure GoesOn (following : Option (List Char))
    (longer shorter : Scanner) : Prop where
  lookahead_eq : longer.lookahead = shorter.lookahead.followedBy following
  rest_eq : shorter.lookahead ≠ .endOfFile →
    longer.rest = shorter.rest ++ behind following
  rest_at_end : shorter.lookahead = .endOfFile →
    ∀ text, following = some text → longer.rest = text

variable {following : Option (List Char)} {longer shorter : Scanner}

theorem GoesOn.refl (scanner : Scanner) : GoesOn none scanner scanner where
  lookahead_eq := (Token.followedBy_none scanner.lookahead).symm
  rest_eq := fun _ => (List.append_nil _).symm
  rest_at_end := nofun

/-! ## Characters of one kind at the beginning -/

theorem stops_behind {test : Char → Bool} (newLine : test '\n' = false)
    {character : Char} {later : List Char}
    (shape : behind following = character :: later) :
    test character = false := by
  cases following with
  | none =>
      cases shape
  | some text =>
      cases shape
      exact newLine

theorem dropWhile_append_behind {test : Char → Bool}
    (newLine : test '\n' = false) (text : List Char) :
    (text ++ behind following).dropWhile test =
      text.dropWhile test ++ behind following := by
  induction text with
  | nil =>
      cases shape : behind following with
      | nil =>
          rfl
      | cons character later =>
          have stops := stops_behind newLine shape
          simp [stops]
  | cons character later inductionHypothesis =>
      by_cases passed : test character = true
      · simp [passed, inductionHypothesis]
      · simp [passed]

theorem takeWhile_append_behind {test : Char → Bool}
    (newLine : test '\n' = false) (text : List Char) :
    (text ++ behind following).takeWhile test = text.takeWhile test := by
  induction text with
  | nil =>
      cases shape : behind following with
      | nil =>
          rfl
      | cons character later =>
          have stops := stops_behind newLine shape
          simp [stops]
  | cons character later inductionHypothesis =>
      by_cases passed : test character = true
      · simp [passed, inductionHypothesis]
      · simp [passed]

/-! ## Reading a token -/

theorem rest_skipBlanks
    (rest : longer.rest = shorter.rest ++ behind following) :
    longer.skipBlanks.rest =
      shorter.skipBlanks.rest ++ behind following := by
  simp only [skipBlanks]
  rw [rest, dropWhile_append_behind (by decide)]

/-- The outcome of reading a token in a longer text agrees with the outcome of
reading one in its beginning. -/
inductive ReadsAlike (following : Option (List Char)) :
    EStateM.Result LexicalError Scanner Unit →
    EStateM.Result LexicalError Scanner Unit → Prop where
  | token {longer shorter : Scanner} :
      GoesOn following longer shorter →
      ReadsAlike following (.ok () longer) (.ok () shorter)
  | error (error : LexicalError) {longer shorter : Scanner} :
      longer.rest = shorter.rest ++ behind following →
      ReadsAlike following (.error error longer) (.error error shorter)

theorem readsAlike_readToken
    (rest : longer.rest = shorter.rest ++ behind following) :
    ReadsAlike following longer.readToken shorter.readToken := by
  cases shape : shorter.rest with
  | nil =>
      rw [shape, List.nil_append] at rest
      cases following with
      | none =>
          have atEnd : longer.rest = [] := rest
          simp only [readToken, atEnd, shape]
          exact .token ⟨rfl, nofun, nofun⟩
      | some text =>
          have atNewLine : longer.rest = '\n' :: text := rest
          simp only [readToken, atNewLine, shape, Token.ofSymbol?]
          refine .token ⟨rfl, fun unfinished => absurd rfl unfinished, ?_⟩
          intro _ other same
          cases same
          rfl
  | cons character later =>
      rw [shape, List.cons_append] at rest
      cases symbol : Token.ofSymbol? character with
      | some token =>
          have unfinished := ne_endOfFile_of_ofSymbol? symbol
          simp only [readToken, rest, shape, symbol]
          refine .token ⟨?_, fun _ => rfl, ?_⟩
          · exact (Token.followedBy_of_ne unfinished).symm
          · intro atEnd
            exact absurd atEnd unfinished
      | none =>
          by_cases starts : isIdentifierCharacter character = true
          · have newLine : isIdentifierCharacter '\n' = false := by
              decide
            have taken :
                (character :: (later ++ behind following)).takeWhile
                    isIdentifierCharacter =
                  (character :: later).takeWhile isIdentifierCharacter :=
              takeWhile_append_behind newLine (character :: later)
            have left :
                (character :: (later ++ behind following)).dropWhile
                    isIdentifierCharacter =
                  (character :: later).dropWhile isIdentifierCharacter ++
                    behind following :=
              dropWhile_append_behind newLine (character :: later)
            simp only [readToken, rest, shape, symbol, starts, if_true,
              taken, left]
            exact .token ⟨rfl, fun _ => rfl, nofun⟩
          · simp only [readToken, rest, shape, symbol, starts]
            refine .error _ ?_
            rw [rest, shape, List.cons_append]

theorem readsAlike_advance
    (longerUnfinished : longer.lookahead ≠ .endOfFile)
    (shorterUnfinished : shorter.lookahead ≠ .endOfFile)
    (rest : longer.rest = shorter.rest ++ behind following) :
    ReadsAlike following longer.advance shorter.advance := by
  rw [advance, advance, if_neg longerUnfinished, if_neg shorterUnfinished]
  exact readsAlike_readToken (rest_skipBlanks rest)

theorem GoesOn.lookahead_eq_of_ne (goesOn : GoesOn following longer shorter)
    (unfinished : shorter.lookahead ≠ .endOfFile) :
    longer.lookahead = shorter.lookahead := by
  rw [goesOn.lookahead_eq, Token.followedBy_of_ne unfinished]

/-- The tokens that are still to be read do not depend on the bytes counted
before them. -/
theorem GoesOn.tokens_eq (goesOn : GoesOn none longer shorter) :
    longer.tokens = shorter.tokens := by
  fun_induction tokens shorter generalizing longer with
  | case1 shorter finished =>
      apply tokens_of_endOfFile
      rw [goesOn.lookahead_eq, Token.followedBy_none, finished]
  | case2 shorter unfinished next read inductionHypothesis =>
      have shown := goesOn.lookahead_eq_of_ne unfinished
      have alike := readsAlike_advance (shown ▸ unfinished) unfinished
        (goesOn.rest_eq unfinished)
      rw [read] at alike
      generalize longerRead : longer.advance = longerScan at alike
      cases alike with
      | token goesOnNext =>
          rw [tokens_of_advance (shown ▸ unfinished) longerRead,
            goesOnNext.lookahead_eq, Token.followedBy_none,
            inductionHypothesis goesOnNext]
  | case3 shorter unfinished error left failed =>
      have shown := goesOn.lookahead_eq_of_ne unfinished
      have alike := readsAlike_advance (shown ▸ unfinished) unfinished
        (goesOn.rest_eq unfinished)
      rw [failed] at alike
      generalize longerRead : longer.advance = longerScan at alike
      cases alike with
      | error _ rest =>
          exact tokens_of_advance_error longerRead

/-- A text goes on if the scanners have shown the same tokens and have the same
characters in front of them. -/
theorem GoesOn.of_rest {longerLeft shorterLeft : Scanner}
    (goesOn : GoesOn following longer shorter)
    (unfinished : shorter.lookahead ≠ .endOfFile)
    (longerShown : longerLeft.lookahead = longer.lookahead)
    (shorterShown : shorterLeft.lookahead = shorter.lookahead)
    (rest : longerLeft.rest = shorterLeft.rest ++ behind following) :
    GoesOn following longerLeft shorterLeft where
  lookahead_eq := by
    rw [longerShown, goesOn.lookahead_eq, shorterShown]
  rest_eq := fun _ => rest
  rest_at_end := fun atEnd =>
    absurd (shorterShown.symm.trans atEnd) unfinished

end Scanner

end NumberedLambda
