import NumberedLambda.Proofs.Scanning.Passage

/-!
# Texts that spell tokens

A text spells a list of tokens if every scanner in front of the text reads
these tokens and stops behind it, whatever follows, unless an identifier
character follows and makes the last identifier longer. Spelled texts are put
together: a blank or a symbol may come in front of one, and one may follow
another if it does not begin in the middle of an identifier.
-/

namespace NumberedLambda

namespace Scanner

open Character

/-- A text in front of which every identifier ends. -/
def EndsIdentifier (text : List Char) : Prop :=
  ∀ character later, text = character :: later →
    isIdentifierCharacter character = false

theorem endsIdentifier_nil : EndsIdentifier [] := by
  intro character later impossible
  cases impossible

theorem endsIdentifier_cons {character : Char} {later : List Char}
    (otherCharacter : isIdentifierCharacter character = false) :
    EndsIdentifier (character :: later) := by
  intro first rest equality
  cases equality
  exact otherCharacter

theorem EndsIdentifier.append {first last : List Char}
    (firstEnds : EndsIdentifier first) (lastEnds : EndsIdentifier last) :
    EndsIdentifier (first ++ last) := by
  cases first with
  | nil =>
      exact lastEnds
  | cons character later =>
      exact endsIdentifier_cons (firstEnds character later rfl)

theorem EndsIdentifier.takeWhile_eq {text later : List Char}
    (ends : EndsIdentifier later)
    (allowed : ∀ character ∈ text, isIdentifierCharacter character = true) :
    (text ++ later).takeWhile isIdentifierCharacter = text := by
  rw [List.takeWhile_append_of_pos allowed]
  cases later with
  | nil =>
      exact List.append_nil text
  | cons character rest =>
      rw [List.takeWhile_cons, ends character rest rfl]
      exact List.append_nil text

theorem EndsIdentifier.dropWhile_eq {text later : List Char}
    (ends : EndsIdentifier later)
    (allowed : ∀ character ∈ text, isIdentifierCharacter character = true) :
    (text ++ later).dropWhile isIdentifierCharacter = later := by
  rw [List.dropWhile_append_of_pos allowed]
  cases later with
  | nil =>
      rfl
  | cons character rest =>
      rw [List.dropWhile_cons, ends character rest rfl]
      rfl

/-! ## Reading one token -/

theorem isSymbol_of_ofSymbol? {character : Char} {token : Token}
    (symbol : Token.ofSymbol? character = some token) :
    isSymbol character = true := by
  unfold Token.ofSymbol? at symbol
  split at symbol <;> first | decide | cases symbol

private theorem advance_eq_readToken {scanner : Scanner}
    {character : Char} {later : List Char}
    (unfinished : scanner.lookahead ≠ .endOfFile)
    (shape : scanner.rest = character :: later)
    (noBlank : isBlank character = false) :
    scanner.advance = scanner.readToken := by
  have nothingSkipped : scanner.skipBlanks = scanner := by
    obtain ⟨rest, offset, lookahead⟩ := scanner
    subst shape
    rw [skipBlanks, List.dropWhile_cons_of_neg (by simp [noBlank]),
      List.takeWhile_cons_of_neg (by simp [noBlank])]
    rfl
  rw [advance, if_neg unfinished, nothingSkipped]

/-- A blank in front changes nothing but the offset. -/
theorem advance_of_blank {scanner : Scanner}
    {blank : Char} {later : List Char}
    (unfinished : scanner.lookahead ≠ .endOfFile)
    (shape : scanner.rest = blank :: later)
    (isABlank : isBlank blank = true) :
    scanner.advance =
      advance
        { rest := later
          offset := scanner.offset + blank.utf8Size
          lookahead := scanner.lookahead } := by
  simp only [advance, if_neg unfinished, skipBlanks, shape,
    List.dropWhile_cons, List.takeWhile_cons, isABlank, if_true, byteLength,
    Nat.add_assoc]

theorem exists_advance_of_symbol {scanner : Scanner}
    {character : Char} {later : List Char} {token : Token}
    (unfinished : scanner.lookahead ≠ .endOfFile)
    (shape : scanner.rest = character :: later)
    (symbol : Token.ofSymbol? character = some token) :
    ∃ after, scanner.advance = .ok () after ∧ after.lookahead = token ∧
      after.rest = later := by
  have noBlank : isBlank character = false := by
    rw [Bool.eq_false_iff]
    intro blank
    have noSymbol := not_isSymbol_of_isBlank blank
    rw [isSymbol_of_ofSymbol? symbol] at noSymbol
    cases noSymbol
  rw [advance_eq_readToken unfinished shape noBlank]
  refine ⟨⟨later, scanner.offset + character.utf8Size, token⟩, ?_, rfl, rfl⟩
  simp only [readToken, shape, symbol]

theorem exists_advance_of_identifier {scanner : Scanner}
    {text later : List Char}
    (unfinished : scanner.lookahead ≠ .endOfFile)
    (shape : scanner.rest = text ++ later) (something : text ≠ [])
    (allowed : ∀ character ∈ text, isIdentifierCharacter character = true)
    (ends : EndsIdentifier later) :
    ∃ after, scanner.advance = .ok () after ∧
      after.lookahead = .identifier (String.ofList text) ∧
      after.rest = later := by
  have taken := ends.takeWhile_eq allowed
  have left := ends.dropWhile_eq allowed
  obtain ⟨character, others, rfl⟩ := List.exists_cons_of_ne_nil something
  have inIdentifier := allowed character (List.mem_cons_self ..)
  have noBlank : isBlank character = false := by
    rw [Bool.eq_false_iff]
    intro blank
    rw [not_isIdentifierCharacter_of_isBlank blank] at inIdentifier
    cases inIdentifier
  have noSymbol : Token.ofSymbol? character = none := by
    rw [Option.eq_none_iff_forall_ne_some]
    intro token symbol
    have ends := not_isIdentifierCharacter_of_isSymbol
      (isSymbol_of_ofSymbol? symbol)
    rw [inIdentifier] at ends
    cases ends
  rw [advance_eq_readToken unfinished shape noBlank]
  rw [List.cons_append] at taken left shape
  refine
    ⟨{ rest := later
       offset := scanner.offset + byteLength (character :: others)
       lookahead := .identifier (String.ofList (character :: others)) },
      ?_, rfl, rfl⟩
  simp only [readToken, shape, noSymbol, inIdentifier, if_true, taken, left]

theorem exists_advance_of_nil {scanner : Scanner}
    (unfinished : scanner.lookahead ≠ .endOfFile)
    (atEnd : scanner.rest = []) :
    ∃ after, scanner.advance = .ok () after ∧
      after.lookahead = .endOfFile := by
  rw [advance, if_neg unfinished, readToken, skipBlanks, atEnd]
  exact ⟨_, rfl, rfl⟩

/-! ## Reading several tokens -/

/-- Every scanner in front of the text reads the tokens and stops behind the
text, if no identifier goes on there. -/
def Spells (text : List Char) (tokens : List Token) : Prop :=
  ∀ scanner later, scanner.lookahead ≠ Token.endOfFile →
    scanner.rest = text ++ later → EndsIdentifier later →
    ∃ after, Reads scanner tokens after ∧ after.rest = later ∧
      after.lookahead ≠ .endOfFile

/-- A text that stands in a source text as one identifier. -/
structure IsName (text : String) : Prop where
  ne_nil : text.toList ≠ []
  allowed : ∀ character ∈ text.toList, isIdentifierCharacter character = true

theorem IsName.of_character {text : String} {character : Char}
    (shape : text.toList = [character])
    (allowed : isIdentifierCharacter character = true) : IsName text where
  ne_nil := by
    rw [shape]
    exact List.cons_ne_nil _ _
  allowed := by
    rw [shape]
    simp [allowed]

namespace Spells

theorem nil : Spells [] [] := by
  intro scanner later unfinished shape ends
  exact ⟨scanner, .nothing scanner, shape, unfinished⟩

theorem identifier {text : List Char} (something : text ≠ [])
    (allowed : ∀ character ∈ text, isIdentifierCharacter character = true) :
    Spells text [.identifier (String.ofList text)] := by
  intro scanner later unfinished shape ends
  obtain ⟨after, read, shown, left⟩ :=
    exists_advance_of_identifier unfinished shape something allowed ends
  refine ⟨after, ?_, left, by simp [shown]⟩
  rw [← shown]
  exact .token read (.nothing after)

/-- A symbol in front is read as a token of its own, whatever follows it. -/
theorem cons_symbol {character : Char} {token : Token}
    {text : List Char} {tokens : List Token}
    (symbol : Token.ofSymbol? character = some token)
    (spells : Spells text tokens) :
    Spells (character :: text) (token :: tokens) := by
  intro scanner later unfinished shape ends
  obtain ⟨between, read, shown, left⟩ :=
    exists_advance_of_symbol unfinished shape symbol
  have stillUnfinished : between.lookahead ≠ .endOfFile := by
    rw [shown]
    intro atEnd
    rw [atEnd] at symbol
    have spelled := Token.spelling_of_ofSymbol? symbol
    cases spelled
  obtain ⟨after, reads, atLater, unfinishedAfter⟩ :=
    spells between later stillUnfinished left ends
  refine ⟨after, ?_, atLater, unfinishedAfter⟩
  rw [← shown]
  exact .token read reads

/-- A blank in front of some token is passed over. -/
theorem cons_blank {blank : Char} {text : List Char} {tokens : List Token}
    (isABlank : isBlank blank = true) (something : tokens ≠ [])
    (spells : Spells text tokens) : Spells (blank :: text) tokens := by
  intro scanner later unfinished shape ends
  have sameAdvance := advance_of_blank unfinished shape isABlank
  obtain ⟨after, reads, atLater, unfinishedAfter⟩ :=
    spells
      { rest := text ++ later
        offset := scanner.offset + blank.utf8Size
        lookahead := scanner.lookahead }
      later unfinished rfl ends
  refine ⟨after, ?_, atLater, unfinishedAfter⟩
  cases reads with
  | nothing _ =>
      exact absurd rfl something
  | token read rest =>
      exact .token (sameAdvance.trans read) rest

/-- A text follows another unless it continues an identifier. -/
theorem append {firstText lastText : List Char}
    {first last : List Token}
    (spellsFirst : Spells firstText first) (ends : EndsIdentifier lastText)
    (spellsLast : Spells lastText last) :
    Spells (firstText ++ lastText) (first ++ last) := by
  intro scanner later unfinished shape laterEnds
  rw [List.append_assoc] at shape
  obtain ⟨between, readsFirst, atLast, stillUnfinished⟩ :=
    spellsFirst scanner (lastText ++ later) unfinished shape
      (ends.append laterEnds)
  obtain ⟨after, readsLast, atLater, unfinishedAfter⟩ :=
    spellsLast between later stillUnfinished atLast laterEnds
  exact ⟨after, readsFirst.append readsLast, atLater, unfinishedAfter⟩

/-! ## Texts of phrases -/

theorem name {text : String} (isName : IsName text) :
    Spells text.toList [.identifier text] := by
  have spells := Spells.identifier isName.ne_nil isName.allowed
  rwa [String.ofList_toList] at spells

/-- Names with a blank between any two of them. -/
theorem names {texts : List String} (allNames : ∀ text ∈ texts, IsName text) :
    Spells (" ".intercalate texts).toList (texts.map Token.identifier) := by
  induction texts with
  | nil =>
      exact nil
  | cons text later inductionHypothesis =>
      have first : Spells text.toList [.identifier text] :=
        name (allNames text (List.mem_cons_self ..))
      have others := inductionHypothesis fun other member =>
        allNames other (List.mem_cons_of_mem _ member)
      cases later with
      | nil =>
          exact first
      | cons second rest =>
          have shape : (" ".intercalate (text :: second :: rest)).toList =
              text.toList ++
                ' ' :: (" ".intercalate (second :: rest)).toList := by
            simp [String.intercalate_cons_cons]
          rw [shape]
          exact first.append (endsIdentifier_cons (by decide))
            (others.cons_blank rfl (List.cons_ne_nil _ _))

theorem parenthesized {text : String} {tokens : List Token}
    (spells : Spells text.toList tokens) :
    Spells ("(" ++ text ++ ")").toList
      (.leftParen :: (tokens ++ [.rightParen])) := by
  have closed : Spells (text.toList ++ [')']) (tokens ++ [.rightParen]) :=
    spells.append (endsIdentifier_cons (by decide)) (nil.cons_symbol rfl)
  have shape : ("(" ++ text ++ ")").toList =
      '(' :: (text.toList ++ [')']) := by
    simp
  rw [shape]
  exact closed.cons_symbol rfl

/-- Two texts with a blank between them. -/
theorem juxtaposed {firstText lastText : String} {first last : List Token}
    (something : last ≠ []) (spellsFirst : Spells firstText.toList first)
    (spellsLast : Spells lastText.toList last) :
    Spells (firstText ++ " " ++ lastText).toList (first ++ last) := by
  have shape : (firstText ++ " " ++ lastText).toList =
      firstText.toList ++ ' ' :: lastText.toList := by
    simp
  rw [shape]
  exact spellsFirst.append (endsIdentifier_cons (by decide))
    (spellsLast.cons_blank rfl something)

/-- The part of an abstraction in front of its body, and the body. -/
theorem abstraction {parameters : List String} {bodyText : String}
    {body : List Token}
    (allNames : ∀ parameter ∈ parameters, IsName parameter)
    (something : body ≠ []) (spells : Spells bodyText.toList body) :
    Spells
      ("\\" ++ " ".intercalate parameters ++ ". " ++ bodyText).toList
      (.backslash :: (parameters.map Token.identifier ++ .dot :: body)) := by
  have behindDot : Spells (' ' :: bodyText.toList) body :=
    spells.cons_blank rfl something
  have shape :
      ("\\" ++ " ".intercalate parameters ++ ". " ++ bodyText).toList =
        '\\' :: ((" ".intercalate parameters).toList ++
          '.' :: ' ' :: bodyText.toList) := by
    simp
  rw [shape]
  exact ((names allNames).append (endsIdentifier_cons (by decide))
    (behindDot.cons_symbol rfl)).cons_symbol rfl

/-! ## Source texts -/

/-- A source text that spells tokens is read token by token until its end. -/
theorem exists_reads {source : String} {tokens : List Token}
    (spells : Spells source.toList tokens) :
    ∃ after, Reads (ofSource source) (tokens ++ [.endOfFile]) after ∧
      after.lookahead = .endOfFile := by
  have begun : (ofSource source).lookahead ≠ .endOfFile := by
    simp [ofSource]
  have shape : (ofSource source).rest = source.toList ++ [] := by
    rw [List.append_nil]
    rfl
  obtain ⟨between, reads, atEnd, unfinished⟩ :=
    spells (ofSource source) [] begun shape endsIdentifier_nil
  obtain ⟨after, read, shown⟩ := exists_advance_of_nil unfinished atEnd
  refine ⟨after, reads.append ?_, shown⟩
  rw [← shown]
  exact .token read (.nothing after)

/-- The end of the text is not among the tokens that a text spells. -/
theorem endOfFile_not_mem {source : String} {tokens : List Token}
    (spells : Spells source.toList tokens) : Token.endOfFile ∉ tokens := by
  intro member
  have shape : (ofSource source).rest = source.toList ++ [] :=
    (List.append_nil _).symm
  obtain ⟨after, reads, _, unfinished⟩ :=
    spells (ofSource source) [] (by simp [ofSource]) shape endsIdentifier_nil
  exact unfinished (reads.lookahead_of_endOfFile_mem member)

/-- A source text spells no more than one list of tokens. -/
theorem unique {source : String} {tokens others : List Token}
    (spells : Spells source.toList tokens)
    (spellsOthers : Spells source.toList others) : tokens = others := by
  obtain ⟨_, reads, _⟩ := spells.exists_reads
  obtain ⟨_, readsOthers, _⟩ := spellsOthers.exists_reads
  exact reads.eq_of_append_endOfFile readsOthers spells.endOfFile_not_mem
    spellsOthers.endOfFile_not_mem

end Spells

end Scanner

end NumberedLambda
