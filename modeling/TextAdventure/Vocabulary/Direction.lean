/-!
# Words for the directions

The six directions can be typed as letters or as full words, whatever the vocabulary of an
adventure holds.

Main results:

- Definition `expandDirection`: the full word of a letter.
- Definition `directionNoun?`: the noun of a direction.
-/

namespace TextAdventure

/-- The directions as they can be typed: a letter, its full word and its noun. -/
def directionWords : List (String × String × Nat) :=
  [("N", "NORTH", 1), ("S", "SOUTH", 2), ("E", "EAST", 3), ("W", "WEST", 4), ("U", "UP", 5),
    ("D", "DOWN", 6)]

/-- The full word of a direction letter; any other word stays as it is. -/
def expandDirection (word : String) : String :=
  match directionWords.find? fun entry => entry.1 == word with
  | some (_, full, _) => full
  | none => word

/-- The noun of a direction, typed as a letter or in full. -/
def directionNoun? (word : String) : Option Nat :=
  let full := expandDirection word
  (directionWords.find? fun entry => entry.2.1 == full).map fun entry => entry.2.2

end TextAdventure
