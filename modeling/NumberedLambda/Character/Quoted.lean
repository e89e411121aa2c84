import NumberedLambda.Character.Classes

/-!
# Characters as messages show them

A message names a character between single quotes. A character that would not
be visible, or would be mistaken for the quoting itself, is written by an
escape instead.
-/

namespace NumberedLambda.Character

/-- The code point in lower-case hexadecimal, without leading zeros. -/
def hexadecimal (character : Char) : String :=
  String.ofList (Nat.toDigits 16 character.toNat)

/-- The character as it stands between the quotes. The null character, tab,
line feed, carriage return, the quote and the backslash have short escapes;
every other character that is not shown is given by its code point. -/
def escaped (character : Char) : String :=
  match character with
  | '\x00' => "\\0"
  | '\t' => "\\t"
  | '\n' => "\\n"
  | '\r' => "\\r"
  | '\'' => "\\'"
  | '\\' => "\\\\"
  | _ =>
      if isShown character then
        String.ofList [character]
      else
        "\\u\x7b" ++ hexadecimal character ++ "\x7d"

/-- The character between single quotes. -/
def quoted (character : Char) : String :=
  "'" ++ escaped character ++ "'"

end NumberedLambda.Character
