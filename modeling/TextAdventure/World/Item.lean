/-!
# Items

What an adventure tells about an item: its description, the word it answers to, and where it starts.

Main results:

- Definitions `carried` and `storeroom`: the locations that are not rooms of their own.
- Structure `Item` with `Item.ofText`: an item from its text in the data.
-/

namespace TextAdventure

/-- The location of an item in the player's inventory. -/
def carried : Nat := 255

/-- The location of an item that is not in play. -/
def storeroom : Nat := 0

/-- An item: its description, the word it answers to, and the location it starts at. -/
structure Item where
  description : String
  word? : Option String
  home : Nat
deriving Repr, DecidableEq

namespace Item

/-- Split a text at its first two slashes. -/
def splitSlashes (cs : List Char) : List (List Char) :=
  match cs.span (· != '/') with
  | (first, []) => [first]
  | (first, _ :: rest) =>
    match rest.span (· != '/') with
    | (second, []) => [first, second]
    | (second, _ :: third) => [first, second, third]

/-- An item from its text in the data.  The text up to the first slash describes it; a non-empty
text between the first slash and the second is the word it answers to. -/
def ofText (text : String) (home : Nat) : Item :=
  match splitSlashes text.toList with
  | [description, word, _] =>
    ⟨String.ofList description,
      if word.isEmpty then none else some (String.ofList word), home⟩
  | description :: _ => ⟨String.ofList description, none, home⟩
  | [] => ⟨"", none, home⟩

/-- Treasures are marked by an asterisk in front. -/
def isTreasure (item : Item) : Bool :=
  item.description.toList.head? == some '*'

end Item

end TextAdventure
