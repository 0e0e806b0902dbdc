import TextAdventure.Data.Token
import TextAdventure.Text.Blank

/-!
# Scanning adventure data

The tokens of adventure data are separated by blanks and by comments that run from `//` to the end
of the line.  The text is scanned from left to right, one character at a time, in one of four modes.

Main results:

- Definition `Token.scanFrom`: the scan from a given mode and line.
- Definition `Token.scan`: the tokens of a text, or the line of a quote that is never closed.
-/

namespace TextAdventure

open Text

/-- Why a text cannot be split into tokens. -/
inductive ScanError where
  /-- The quote opened on this line is never closed. -/
  | unclosedQuote (line : Nat)
deriving Repr, DecidableEq

namespace Token

/-- What the scanner is in the middle of.  The characters read so far are kept last first. -/
inductive Mode where
  | between
  | comment
  | quoted (start : Nat) (text : List Char)
  | bare (start : Nat) (word : List Char)
deriving Repr, DecidableEq

/-- The line after a character on the given line. -/
def lineAfter (line : Nat) (c : Char) : Nat :=
  if c = '\n' then line + 1 else line

/-- Two slashes open a comment. -/
def opensComment (c : Char) (rest : List Char) : Bool :=
  c == '/' && rest.head? == some '/'

/-- A character that cannot belong to a run of characters outside quotes. -/
def endsWord (c : Char) (rest : List Char) : Bool :=
  isBlank c || c == '"' || opensComment c rest

/-- The mode after a character that stands outside quotes, comments and runs. -/
def modeAfter (line : Nat) (c : Char) (rest : List Char) : Mode :=
  if opensComment c rest then .comment
  else if isBlank c then .between
  else if c = '"' then .quoted line []
  else .bare line [c]

/-- The token of a run of characters outside quotes. -/
def ofRun (start : Nat) (word : List Char) : Token :=
  ⟨.ofWord (String.ofList word.reverse), start⟩

/-- The token of a quoted string. -/
def ofQuoted (start : Nat) (text : List Char) : Token :=
  ⟨.quoted (String.ofList text.reverse), start⟩

/-- Scan the rest of a text from the given mode and line. -/
def scanFrom : Mode → Nat → List Char → Except ScanError (List Token)
  | .between, _, [] => .ok []
  | .comment, _, [] => .ok []
  | .quoted start _, _, [] => .error (.unclosedQuote start)
  | .bare start word, _, [] => .ok [ofRun start word]
  | .between, line, c :: rest => scanFrom (modeAfter line c rest) (lineAfter line c) rest
  | .comment, line, c :: rest =>
    if c = '\n' ∨ c = '\r' then scanFrom .between (lineAfter line c) rest
    else scanFrom .comment line rest
  | .quoted start text, line, c :: rest =>
    if c = '"' then (ofQuoted start text :: ·) <$> scanFrom .between line rest
    else scanFrom (.quoted start (c :: text)) (lineAfter line c) rest
  | .bare start word, line, c :: rest =>
    if endsWord c rest then
      (ofRun start word :: ·) <$> scanFrom (modeAfter line c rest) (lineAfter line c) rest
    else scanFrom (.bare start (c :: word)) line rest

/-- The tokens of a text, in order. -/
def scan (s : String) : Except ScanError (List Token) :=
  scanFrom .between 1 s.toList

end Token

end TextAdventure
