import TextAdventure.Text.Escape
import TextAdventure.Text.Numeral

/-!
# Tokens of adventure data

Adventure data is a sequence of numbers, quoted strings and bare words.

Main results:

- Structure `Token` and inductive `Lexeme`: what a token stands for, and the line it starts on.
- Definition `Lexeme.ofWord`: which words are numbers.
- Definition `Lexeme.describe`: a token as error messages name it.
-/

namespace TextAdventure

open Text

/-- What a token stands for. -/
inductive Lexeme where
  /-- A signed number of at most 64 bits. -/
  | number (value : Int)
  /-- The text between two double quotes, line breaks included. -/
  | quoted (text : String)
  /-- Any other run of characters without a blank. -/
  | bare (word : String)
deriving Repr, DecidableEq

/-- A token with the line it starts on, counted from one. -/
structure Token where
  lexeme : Lexeme
  line : Nat
deriving Repr, DecidableEq

/-- A token as error messages name it. -/
def Lexeme.describe : Lexeme → String
  | .number n => s!"number {n}"
  | .quoted s => s!"string \"{escape s}\""
  | .bare w => s!"bare word '{w}'"

/-- A run of characters outside quotes is a number when it reads as one, and a bare word if not. -/
def Lexeme.ofWord (word : String) : Lexeme :=
  match integer64? word with
  | some n => .number n
  | none => .bare word

end TextAdventure
