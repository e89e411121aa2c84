import Mathlib.Data.List.DropRight
import NumberedLambda.Scanner

/-!
# Characters that begin no token

A scanner that has met a character that begins no token stands right in front
of it, behind the blanks. So the next attempt to advance meets the same
character, ends with the same error and changes nothing: the scanner is
obstructed, and it stays so.
-/

namespace NumberedLambda

open Character

namespace Scanner

/-- An attempt to advance ends with `error` and changes nothing. -/
def Obstructed (error : LexicalError) (scanner : Scanner) : Prop :=
  scanner.advance = .error error scanner

/-- Behind the blanks there are no more blanks to pass over. -/
theorem skipBlanks_skipBlanks (scanner : Scanner) :
    scanner.skipBlanks.skipBlanks = scanner.skipBlanks := by
  have sameRest :
      (scanner.rest.dropWhile isBlank).dropWhile isBlank =
        scanner.rest.dropWhile isBlank :=
    List.dropWhile_idempotent isBlank scanner.rest
  have noBlank : (scanner.rest.dropWhile isBlank).takeWhile isBlank = [] := by
    have parts := (scanner.rest.dropWhile isBlank).takeWhile_append_dropWhile
      (p := isBlank)
    rw [sameRest] at parts
    exact List.append_left_eq_self.mp parts
  simp only [skipBlanks, sameRest, noBlank, byteLength, Nat.add_zero]

/-- A failed attempt leaves an obstructed scanner. -/
theorem obstructed_of_advance
    {scanner left : Scanner} {error : LexicalError}
    (failed : scanner.advance = .error error left) :
    left.Obstructed error := by
  unfold advance at failed
  split at failed
  · cases failed
  · rename_i unfinished
    have behindBlanks := eq_of_readToken_error failed
    subst behindBlanks
    rw [Obstructed, advance, lookahead_skipBlanks, if_neg unfinished,
      skipBlanks_skipBlanks]
    exact failed

/-- Where the end of the text has been read, nothing obstructs the scanner. -/
theorem Obstructed.unfinished {scanner : Scanner} {error : LexicalError}
    (obstructed : scanner.Obstructed error) :
    scanner.lookahead ≠ .endOfFile := by
  intro finished
  cases (advance_of_endOfFile finished).symm.trans obstructed

/-! ## Further attempts -/

/-- The scanner after an attempt to advance, whether it succeeds or fails. -/
def attempt (scanner : Scanner) : Scanner :=
  match scanner.advance with
  | .ok () after => after
  | .error _ left => left

/-- The scanner after a number of attempts to advance. -/
def afterAttempts : Nat → Scanner → Scanner
  | 0, scanner => scanner
  | count + 1, scanner => scanner.attempt.afterAttempts count

/-- Attempts do not change an obstructed scanner. -/
theorem Obstructed.afterAttempts_eq
    {scanner : Scanner} {error : LexicalError}
    (obstructed : scanner.Obstructed error) (count : Nat) :
    scanner.afterAttempts count = scanner := by
  have unmoved : scanner.attempt = scanner := by
    rw [attempt, obstructed]
  induction count with
  | zero =>
      rfl
  | succ count inductionHypothesis =>
      rw [afterAttempts, unmoved, inductionHypothesis]

end Scanner

end NumberedLambda
