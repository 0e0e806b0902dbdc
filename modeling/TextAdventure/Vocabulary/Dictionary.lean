import TextAdventure.Text.Uppercase
import TextAdventure.World

/-!
# The dictionary

How typed words are resolved to verb and noun numbers.  Words are compared in uppercase and, where
the adventure has a word length, by as many of their first characters.  A primary word is preferred
to a synonym, then an exact match to a truncated one, then the earlier word.  A synonym stands for
the nearest primary word of its kind before it.

Main results:

- Definition `Dictionary.lookup`: the number of a typed word.
- Definition `Dictionary.text`: the listing of a dictionary.
-/

namespace TextAdventure

open Text

/-! ## Truncation -/

/-- The first characters of a word, as many as count; a length of zero means all of them. -/
def truncate (length : Nat) (word : String) : String :=
  if length = 0 then word else String.ofList (word.toList.take length)

/-! ## Lookup -/

/-- The words of an adventure with the number of characters by which they are told apart. -/
structure Dictionary where
  words : List Word
  wordLength : Nat
deriving Repr, DecidableEq

/-- The dictionary of a world. -/
def World.dictionary (world : World) : Dictionary :=
  ⟨world.words, world.header.wordLength⟩

/-- A word can be matched unless it is the first of its kind or has no text. -/
def Word.isCandidate (w : Word) (kind : WordKind) : Bool :=
  w.kind == kind && w.index != 0 && w.text != ""

namespace Dictionary

/-- The words of a kind that can be matched, each with its place in the dictionary. -/
def candidates (d : Dictionary) (kind : WordKind) : List (Word × Nat) :=
  d.words.zipIdx.filter fun (w, _) => w.isCandidate kind

/-- A word is the one typed, character by character; `typed` is in uppercase. -/
def isExact (typed : String) (w : Word) : Bool :=
  upper w.text == typed

/-- A word agrees with the one typed in the characters that count; `typed` is in uppercase. -/
def isTruncated (d : Dictionary) (typed : String) (w : Word) : Bool :=
  truncate d.wordLength (upper w.text) == truncate d.wordLength typed

/-- The first candidate, primary words or synonyms, that matches what was typed. -/
def bestAmong (d : Dictionary) (typed : String) (kind : WordKind) (isSynonym : Bool) :
    Option (Word × Nat) :=
  let words := (d.candidates kind).filter fun (w, _) => w.isSynonym == isSynonym
  (words.find? fun (w, _) => isExact typed w).or
    (words.find? fun (w, _) => d.isTruncated typed w)

/-- The number of the nearest primary word of a kind before a place. -/
def primaryBefore? (d : Dictionary) (kind : WordKind) (place : Nat) : Option Nat :=
  ((d.words.take place).reverse.find? fun w => w.kind == kind && !w.isSynonym).map Word.index

/-- The number of a typed word. -/
def lookup (d : Dictionary) (kind : WordKind) (word : String) : Option Nat :=
  let typed := upper word
  if typed = "" then none
  else
    match d.bestAmong typed kind false with
    | some (w, _) => some w.index
    | none =>
      match d.bestAmong typed kind true with
      | some (_, place) => d.primaryBefore? kind place
      | none => none

/-- The number of a typed verb. -/
def verb? (d : Dictionary) (word : String) : Option Nat :=
  d.lookup .verb word

/-- The number of a typed noun. -/
def noun? (d : Dictionary) (word : String) : Option Nat :=
  d.lookup .noun word

/-! ## Listing -/

/-- A number at the right end of a column of five characters. -/
def column (n : Nat) : String :=
  let digits := toString n
  String.ofList (List.replicate (5 - digits.length) ' ') ++ digits

/-- The line of a word in the listing. -/
def lineOf (w : Word) : String :=
  let kind := match w.kind with
    | .verb => "verb"
    | .noun => "noun"
  let mark := if w.isSynonym then "*" else " "
  s!"{column w.index} | {kind} | {mark}{w.text}\n"

/-- The listing of the dictionary. -/
def text (d : Dictionary) : String :=
  s!"word length: {d.wordLength}, words: {d.words.length}\n" ++ String.join (d.words.map lineOf)

end Dictionary

/-- The empty word is not in any dictionary. -/
@[simp]
theorem Dictionary.lookup_empty (d : Dictionary) (kind : WordKind) : d.lookup kind "" = none := by
  simp [Dictionary.lookup, upper]

end TextAdventure
