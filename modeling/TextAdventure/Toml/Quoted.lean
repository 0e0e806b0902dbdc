/-!
# Quoted strings in TOML

The parts of a TOML document that lie between its values, and the strings in quotes.  Every reader
takes the text from its place on, and gives what it read with the text after it.

Main results:

- Definitions `skipSpaces`, `endLine?` and `skipLines`: blanks, comments and line breaks.
- Definitions `basic`, `literal` and their multi-line forms: the four kinds of quoted strings.
-/

namespace TextAdventure.Toml

/-- The rest of a text. -/
abbrev Rest := List Char

/-! ## Blanks and comments -/

/-- A space or a tab. -/
def isSpace (c : Char) : Bool :=
  c == ' ' || c == '\t'

/-- A character that a comment or a literal string can hold: no control except the tab. -/
def isPlain (c : Char) : Bool :=
  c == '\t' || (0x20 ≤ c.toNat && c.toNat != 0x7F)

/-- The text after spaces and tabs. -/
def skipSpaces (cs : Rest) : Rest :=
  cs.dropWhile isSpace

/-- The text after a line break. -/
def newline? : Rest → Option Rest
  | '\n' :: rest => some rest
  | '\r' :: '\n' :: rest => some rest
  | _ => none

/-- The text after spaces and a comment. -/
def skipComment (cs : Rest) : Rest :=
  match skipSpaces cs with
  | '#' :: rest => rest.dropWhile isPlain
  | rest => rest

/-- The text after the end of a line, which spaces and a comment can precede. -/
def endLine? (cs : Rest) : Option Rest :=
  match skipComment cs with
  | [] => some []
  | rest => newline? rest

/-- The text after any number of spaces, comments and line breaks. -/
def skipLines : Nat → Rest → Rest
  | 0, cs => cs
  | n + 1, cs =>
    match newline? (skipComment cs) with
    | some rest => skipLines n rest
    | none => skipComment cs

/-! ## Quoted strings -/

/-- The value of a hexadecimal digit. -/
def hexDigit? (c : Char) : Option Nat :=
  if '0' ≤ c ∧ c ≤ '9' then some (c.toNat - '0'.toNat)
  else if 'a' ≤ c ∧ c ≤ 'f' then some (c.toNat - 'a'.toNat + 10)
  else if 'A' ≤ c ∧ c ≤ 'F' then some (c.toNat - 'A'.toNat + 10)
  else none

/-- The character with a hexadecimal code. -/
def charOfHex? (digits : List Char) : Option Char := do
  let values ← digits.mapM hexDigit?
  let code := values.foldl (fun n d => 16 * n + d) 0
  if code.isValidChar then some (Char.ofNat code) else none

/-- The character that a backslash and a letter stand for. -/
def escaped? : Char → Option Char
  | 'b' => some '\x08'
  | 't' => some '\t'
  | 'n' => some '\n'
  | 'f' => some '\x0c'
  | 'r' => some '\r'
  | '"' => some '"'
  | '\\' => some '\\'
  | _ => none

/-- Put a character in front of what was read. -/
def consed (c : Char) (read : Option (List Char × Rest)) : Option (List Char × Rest) :=
  read.map fun (text, rest) => (c :: text, rest)

/-- The rest of a string in double quotes. -/
def basic : Rest → Option (List Char × Rest)
  | [] => none
  | '"' :: rest => some ([], rest)
  | '\\' :: 'u' :: a :: b :: c :: d :: rest => do
    consed (← charOfHex? [a, b, c, d]) (basic rest)
  | '\\' :: 'U' :: a :: b :: c :: d :: e :: f :: g :: h :: rest => do
    consed (← charOfHex? [a, b, c, d, e, f, g, h]) (basic rest)
  | '\\' :: c :: rest => do consed (← escaped? c) (basic rest)
  | c :: rest => if isPlain c then consed c (basic rest) else none

/-- A backslash at the end of a line; spaces can follow it. -/
def joinsLines (rest : Rest) : Bool :=
  (newline? (skipSpaces rest)).isSome

/-- The rest of a string in triple double quotes.  While `joining`, the blanks and line breaks after
a backslash at the end of a line are left out. -/
def basicLines (joining : Bool) : Rest → Option (List Char × Rest)
  | [] => none
  | '"' :: '"' :: '"' :: '"' :: '"' :: rest => some (['"', '"'], rest)
  | '"' :: '"' :: '"' :: '"' :: rest => some (['"'], rest)
  | '"' :: '"' :: '"' :: rest => some ([], rest)
  | '\r' :: '\n' :: rest =>
    if joining then basicLines true rest else consed '\n' (basicLines false rest)
  | '\n' :: rest => if joining then basicLines true rest else consed '\n' (basicLines false rest)
  | '\\' :: 'u' :: a :: b :: c :: d :: rest => do
    consed (← charOfHex? [a, b, c, d]) (basicLines false rest)
  | '\\' :: 'U' :: a :: b :: c :: d :: e :: f :: g :: h :: rest => do
    consed (← charOfHex? [a, b, c, d, e, f, g, h]) (basicLines false rest)
  | '\\' :: c :: rest =>
    if joinsLines (c :: rest) then basicLines true (c :: rest)
    else do consed (← escaped? c) (basicLines false rest)
  | c :: rest =>
    if joining && isSpace c then basicLines true rest
    else if isPlain c then consed c (basicLines false rest)
    else none

/-- The rest of a string in single quotes. -/
def literal : Rest → Option (List Char × Rest)
  | [] => none
  | '\'' :: rest => some ([], rest)
  | c :: rest => if isPlain c then consed c (literal rest) else none

/-- The rest of a string in triple single quotes. -/
def literalLines : Rest → Option (List Char × Rest)
  | [] => none
  | '\'' :: '\'' :: '\'' :: '\'' :: '\'' :: rest => some (['\'', '\''], rest)
  | '\'' :: '\'' :: '\'' :: '\'' :: rest => some (['\''], rest)
  | '\'' :: '\'' :: '\'' :: rest => some ([], rest)
  | '\r' :: '\n' :: rest => consed '\n' (literalLines rest)
  | c :: rest => if isPlain c || c == '\n' then consed c (literalLines rest) else none

/-- The text after a line break at the very beginning of a multi-line string. -/
def dropFirstBreak (cs : Rest) : Rest :=
  (newline? cs).getD cs

/-- A quoted string of one line. -/
def quoted? : Rest → Option (String × Rest)
  | '"' :: rest => (basic rest).map fun (text, rest) => (String.ofList text, rest)
  | '\'' :: rest => (literal rest).map fun (text, rest) => (String.ofList text, rest)
  | _ => none

/-- A quoted string, of one line or of several. -/
def string? : Rest → Option (String × Rest)
  | '"' :: '"' :: '"' :: rest =>
    (basicLines false (dropFirstBreak rest)).map fun (text, rest) => (String.ofList text, rest)
  | '\'' :: '\'' :: '\'' :: rest =>
    (literalLines (dropFirstBreak rest)).map fun (text, rest) => (String.ofList text, rest)
  | cs => quoted? cs

end TextAdventure.Toml
