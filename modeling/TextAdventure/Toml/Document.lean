import TextAdventure.Toml.Word

/-!
# TOML documents

A document is read line by line.  A line is blank, a comment, a header that names the table of the
lines below, or an assignment of a value to a key.

Main results:

- Definition `value?`: a value, arrays and inline tables included.
- Definition `read?`: the entries of a document, nothing for a text that is not a document.
-/

namespace TextAdventure.Toml

/-! ## Keys -/

/-- A character of an unquoted key. -/
def isKeyChar (c : Char) : Bool :=
  c.isAlphanum || c == '-' || c == '_'

/-- A key, quoted or not. -/
def key? (cs : Rest) : Option (String × Rest) :=
  match cs.takeWhile isKeyChar with
  | [] => quoted? cs
  | name => some (String.ofList name, cs.dropWhile isKeyChar)

/-- Keys that are parted by points, with so many parts at most. -/
def parts? : Nat → Rest → Option (Path × Rest)
  | 0, _ => none
  | n + 1, cs => do
    let (key, rest) ← key? (skipSpaces cs)
    match skipSpaces rest with
    | '.' :: rest =>
      let (path, rest) ← parts? n rest
      return (key :: path, rest)
    | rest => return ([key], rest)

/-- Dotted keys have fewer parts than this, and arrays and inline tables are nested less deeply. -/
def depthLimit : Nat := 80

/-- A key, dotted or not. -/
def path? (cs : Rest) : Option (Path × Rest) :=
  parts? (depthLimit - 1) cs

/-- The keys and the equals sign of an assignment. -/
def target? (cs : Rest) : Option (Path × Rest) := do
  match ← path? cs with
  | (path, '=' :: rest) => return (path, skipSpaces rest)
  | _ => none

/-! ## Values -/

mutual

/-- A value inside so many arrays and inline tables.  The first argument limits the number of steps;
each one takes a character of the text or goes one level down. -/
def value? (fuel depth : Nat) (cs : Rest) : Option (Value × Rest) :=
  match fuel with
  | 0 => none
  | n + 1 =>
    match cs with
    | '[' :: rest =>
      if depth + 1 < depthLimit then
        (elements? n (depth + 1) rest).map fun (values, rest) => (.array values, rest)
      else none
    | '\x7b' :: rest =>
      if depth + 1 < depthLimit then
        match skipSpaces rest with
        | '\x7d' :: rest => some (.table .inline [], rest)
        | rest =>
          (pairs? n (depth + 1) [] rest).map fun (entries, rest) => (.table .inline entries, rest)
      else none
    | '"' :: _ | '\'' :: _ => (string? cs).map fun (text, rest) => (.string text, rest)
    | _ =>
      let (word, rest) := splitWord cs
      (wordValue? word).map fun v => (v, rest)

/-- The elements of an array and its closing bracket. -/
def elements? (fuel depth : Nat) (cs : Rest) : Option (List Value × Rest) :=
  match fuel with
  | 0 => none
  | n + 1 =>
    match skipLines n cs with
    | ']' :: rest => some ([], rest)
    | cs => do
      let (v, rest) ← value? n depth cs
      match skipLines n rest with
      | ',' :: rest =>
        let (values, rest) ← elements? n depth rest
        return (v :: values, rest)
      | ']' :: rest => return ([v], rest)
      | _ => none

/-- The assignments of an inline table and its closing brace. -/
def pairs? (fuel depth : Nat) (entries : Entries) (cs : Rest) : Option (Entries × Rest) :=
  match fuel with
  | 0 => none
  | n + 1 => do
    let (keys, rest) ← target? cs
    let (v, rest) ← value? n depth rest
    let entries ← assign [] keys v entries
    match skipSpaces rest with
    | ',' :: rest => pairs? n depth entries rest
    | '\x7d' :: rest => return (entries, rest)
    | _ => none

end

/-! ## Lines -/

/-- A document as far as it has been read: its entries and the table of the lines below. -/
structure Draft where
  entries : Entries := []
  current : Path := []
deriving Repr, Inhabited

/-- The rest of a header in double brackets. -/
def arrayHeader? (doc : Draft) (cs : Rest) : Option (Draft × Rest) := do
  match ← path? cs with
  | (path, ']' :: ']' :: rest) =>
    let entries ← openArray path doc.entries
    return (⟨entries, path⟩, ← endLine? rest)
  | _ => none

/-- The rest of a header in single brackets. -/
def tableHeader? (doc : Draft) (cs : Rest) : Option (Draft × Rest) := do
  match ← path? cs with
  | (path, ']' :: rest) =>
    let entries ← openTable path doc.entries
    return (⟨entries, path⟩, ← endLine? rest)
  | _ => none

/-- An assignment. -/
def assignment? (doc : Draft) (cs : Rest) : Option (Draft × Rest) := do
  let (keys, rest) ← target? cs
  let (v, rest) ← value? (3 * rest.length + 3) 0 rest
  let entries ← assign doc.current keys v doc.entries
  return ({ doc with entries }, ← endLine? rest)

/-- One line of a document. -/
def line? (doc : Draft) (cs : Rest) : Option (Draft × Rest) :=
  match skipSpaces cs with
  | '[' :: '[' :: rest => arrayHeader? doc rest
  | '[' :: rest => tableHeader? doc rest
  | rest =>
    match endLine? rest with
    | some rest => some (doc, rest)
    | none => assignment? doc rest

/-- The lines of a document, so many of them at most. -/
def lines? : Nat → Draft → Rest → Option Draft
  | _, doc, [] => some doc
  | 0, _, _ => none
  | n + 1, doc, cs => do
    let (doc, rest) ← line? doc cs
    lines? n doc rest

/-- The text after a byte order mark. -/
def dropMark : Rest → Rest
  | '\uFEFF' :: rest => rest
  | cs => cs

/-- The entries of a document.  Each line takes a character of the text. -/
def read? (text : String) : Option Entries :=
  let cs := dropMark text.toList
  (lines? cs.length {} cs).map Draft.entries

end TextAdventure.Toml
