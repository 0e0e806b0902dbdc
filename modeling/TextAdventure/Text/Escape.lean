import TextAdventure.Text.Printable

/-!
# Escaped text

How a quoted string of the adventure data is shown in an error message: on one line, with quotes,
backslashes and unprintable characters escaped.

Main results:

- Definition `escapeChar`: the escape of a character that cannot join the one before it.
- Definition `escape`: a whole text; a combining mark is escaped only where it comes first.
-/

namespace TextAdventure.Text

/-- The hexadecimal escape of a character, as in `\u{1f}`. -/
def hexEscape (c : Char) : List Char :=
  ['\\', 'u', '\x7b'] ++ Nat.toDigits 16 c.toNat ++ ['\x7d']

/-- A character inside a text: the common controls, quotes and the backslash have escapes of two
characters, other unprintable characters a hexadecimal one. -/
def escapeChar (c : Char) : List Char :=
  match c with
  | '\x00' => ['\\', '0']
  | '\t' => ['\\', 't']
  | '\r' => ['\\', 'r']
  | '\n' => ['\\', 'n']
  | '\\' => ['\\', '\\']
  | '"' => ['\\', '"']
  | '\'' => ['\\', '\'']
  | c => if isPrintable c then [c] else hexEscape c

/-- The first character of a text; a combining mark would join the quote before it. -/
def escapeFirst (c : Char) : List Char :=
  if extendsGrapheme c then hexEscape c else escapeChar c

/-- A text in its escaped form. -/
def escape (s : String) : String :=
  match s.toList with
  | [] => ""
  | c :: rest => String.ofList (escapeFirst c ++ rest.flatMap escapeChar)

end TextAdventure.Text
