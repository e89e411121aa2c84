import NumberedLambda.Character.Other
import NumberedLambda.Character.Extender

/-!
# Character classes of the source language

A source text consists of blanks, symbols and identifier characters; any other
character cannot begin a token. The four classes are disjoint, which is what
makes the division of a text into tokens unambiguous.
-/

namespace NumberedLambda.Character

/-- The blanks, which separate tokens and are not tokens themselves: space,
tab and carriage return. -/
def isBlank (character : Char) : Bool :=
  character == ' ' || character == '\t' || character == '\r'

/-- The characters that are tokens by themselves. -/
def isSymbol (character : Char) : Bool :=
  character == '\n' || character == '\\' || character == '.' ||
    character == '(' || character == ')'

/-- The code points with the property White_Space. -/
def spaceRanges : List (Nat × Nat) :=
  [(0x9, 0xD), (0x20, 0x20), (0x85, 0x85), (0xA0, 0xA0), (0x1680, 0x1680),
    (0x2000, 0x200A), (0x2028, 0x2029), (0x202F, 0x202F), (0x205F, 0x205F),
    (0x3000, 0x3000)]

/-- The code points of the three separator categories. -/
def separatorRanges : List (Nat × Nat) :=
  [(0x20, 0x20), (0xA0, 0xA0), (0x1680, 0x1680), (0x2000, 0x200A),
    (0x2028, 0x2029), (0x202F, 0x202F), (0x205F, 0x205F), (0x3000, 0x3000)]

/-- The Hangul fillers. They are letters, and they are displayed as
nothing. -/
def fillerRanges : List (Nat × Nat) :=
  [(0x115F, 0x1160), (0x3164, 0x3164), (0xFFA0, 0xFFA0)]

/-- The halfwidth sound marks. They have the property Grapheme_Extend, and
they are displayed in a cell of their own. -/
def soundMarkRanges : List (Nat × Nat) :=
  [(0xFF9E, 0xFF9F)]

/-- Whether the character has the property White_Space. -/
def isSpace (character : Char) : Bool :=
  inRanges character.toNat spaceRanges

/-- Whether the character is in general category Other. -/
def isOther (character : Char) : Bool :=
  inRanges character.toNat otherRanges

/-- Whether the character is in one of the separator categories. -/
def isSeparator (character : Char) : Bool :=
  inRanges character.toNat separatorRanges

/-- Whether the character has the property Grapheme_Extend. -/
def isExtender (character : Char) : Bool :=
  inRanges character.toNat extenderRanges

/-- Whether the character is a Hangul filler. -/
def isFiller (character : Char) : Bool :=
  inRanges character.toNat fillerRanges

/-- Whether the character is a halfwidth sound mark. -/
def isSoundMark (character : Char) : Bool :=
  inRanges character.toNat soundMarkRanges

/-- Whether the character merges with the one before it on display. -/
def isMerged (character : Char) : Bool :=
  isExtender character && !isSoundMark character

/-- Identifiers are made of every character that is no symbol, no white space
and not in category Other. -/
def isIdentifierCharacter (character : Char) : Bool :=
  !(isSymbol character || isSpace character || isOther character)

/-- Whether a message shows the character as itself. Not shown are category
Other, the fillers, the separators other than the space, and the characters
that merge with the one before them. -/
def isShown (character : Char) : Bool :=
  !(isOther character || isFiller character || isMerged character ||
    (isSeparator character && character != ' '))

theorem isBlank_iff (character : Char) :
    isBlank character = true ↔
      character = ' ' ∨ character = '\t' ∨ character = '\r' := by
  simp [isBlank, or_assoc]

theorem isSymbol_iff (character : Char) :
    isSymbol character = true ↔
      character = '\n' ∨ character = '\\' ∨ character = '.' ∨
        character = '(' ∨ character = ')' := by
  simp [isSymbol, or_assoc]

/-- Every blank is white space, so it ends an identifier. -/
theorem not_isIdentifierCharacter_of_isBlank {character : Char}
    (blank : isBlank character = true) :
    isIdentifierCharacter character = false := by
  rcases (isBlank_iff character).mp blank with rfl | rfl | rfl <;> decide

/-- Every symbol ends an identifier. -/
theorem not_isIdentifierCharacter_of_isSymbol {character : Char}
    (symbol : isSymbol character = true) :
    isIdentifierCharacter character = false := by
  simp [isIdentifierCharacter, symbol]

/-- No blank is a token. -/
theorem not_isSymbol_of_isBlank {character : Char}
    (blank : isBlank character = true) :
    isSymbol character = false := by
  rcases (isBlank_iff character).mp blank with rfl | rfl | rfl <;> decide

/-- The underscore, which joins a name and its number, may stand in an
identifier. -/
theorem isIdentifierCharacter_underscore :
    isIdentifierCharacter '_' = true := by
  decide

/-- Decimal digits may stand anywhere in an identifier. -/
theorem isIdentifierCharacter_of_isDigit {character : Char}
    (digit : character.isDigit = true) :
    isIdentifierCharacter character = true := by
  simp only [Char.isDigit, Bool.and_eq_true, decide_eq_true_eq] at digit
  obtain ⟨lower, upper⟩ := digit
  have lowerBound : 48 ≤ character.toNat := lower
  have upperBound : character.toNat ≤ 57 := upper
  rw [← Char.ofNat_toNat character]
  generalize character.toNat = code at lowerBound upperBound
  have cases : code = 48 ∨ code = 49 ∨ code = 50 ∨ code = 51 ∨ code = 52 ∨
      code = 53 ∨ code = 54 ∨ code = 55 ∨ code = 56 ∨ code = 57 := by
    omega
  rcases cases with rfl | rfl | rfl | rfl | rfl | rfl | rfl | rfl | rfl |
    rfl <;> decide

end NumberedLambda.Character
