import SqlSelect.Text.DefaultIgnorable
import SqlSelect.Text.GraphemeExtend
import SqlSelect.Text.Unprintable

/-!
# Text between quotes, for people to read

Messages show a text between double quotes. What would end the quotes early and what has a usual
letter is written with a backslash: the zero character, tab, carriage return, newline, the backslash
and the double quote. What could not be seen is written by its code point in hexadecimal. All else,
the single quote too, stays as it is.

## What can be seen

A character can be seen if it prints, shows something by default and stands by itself. Characters
that extend the one before them do not stand by themselves, except for the two halfwidth sound
marks, which take a place of their own.
-/

namespace SqlSelect.Text

/-- The halfwidth sound marks: they extend a syllable but stand in a place of their own. -/
def halfwidthSoundMarks : CodePoints := [(0xFF9E, 0xFF9F)]

/-- Whether a character is joined to the one before it and has no place of its own. -/
def isJoined (c : Char) : Bool := graphemeExtend.has c && !halfwidthSoundMarks.has c

/-- Whether a character can be seen where it stands. -/
def isVisible (c : Char) : Bool :=
  !unprintable.has c && !defaultIgnorable.has c && !isJoined c

/-- The code point in lower-case hexadecimal, without leading zeros, between braces. -/
def codePointEscape (c : Char) : List Char :=
  ['\\', 'u', '\x7b'] ++ Nat.toDigits 16 c.toNat ++ ['\x7d']

/-- A character as it is written between the quotes. -/
def escapedChar (c : Char) : List Char :=
  match c with
  | '\x00' => ['\\', '0']
  | '\t' => ['\\', 't']
  | '\r' => ['\\', 'r']
  | '\n' => ['\\', 'n']
  | '\\' => ['\\', '\\']
  | '\x22' => ['\\', '\x22']
  | c => if isVisible c then [c] else codePointEscape c

/-- A text between double quotes. -/
def quoted (s : String) : String :=
  String.ofList (['\x22'] ++ s.toList.flatMap escapedChar ++ ['\x22'])

end SqlSelect.Text
