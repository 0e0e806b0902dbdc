/-!
# Vocabulary words

Verbs and nouns are numbered in two lists.  A word whose text in the data begins with an asterisk is
a synonym of a word before it.

Main results:

- Structure `Word` with `Word.ofText`: a word from its text in the data.
-/

namespace TextAdventure

/-- The two vocabularies. -/
inductive WordKind where
  | verb | noun
deriving Repr, DecidableEq

/-- A vocabulary word with its number in the list of its kind. -/
structure Word where
  text : String
  isSynonym : Bool
  kind : WordKind
  index : Nat
deriving Repr, DecidableEq

/-- A word from its text in the data, where an asterisk in front marks a synonym. -/
def Word.ofText (text : String) (kind : WordKind) (index : Nat) : Word :=
  match text.toList with
  | '*' :: rest => ⟨String.ofList rest, true, kind, index⟩
  | _ => ⟨text, false, kind, index⟩

end TextAdventure
