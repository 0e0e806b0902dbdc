/-!
# Rooms and directions

A room has six exits, one for each direction.  The directions are the nouns 1 to 6 of an adventure.

Main results:

- Inductive `Direction` with `Direction.ofNoun?`: the direction a noun stands for.
- Structure `Room` with `Room.exit`: where an exit leads to.
- Theorem `Direction.ofNoun?_slot`: a direction is the one its noun stands for.
-/

namespace TextAdventure

/-! ## Directions -/

/-- The exits of a room, in the order of the data. -/
inductive Direction where
  | north | south | east | west | up | down
deriving Repr, DecidableEq

namespace Direction

/-- Every direction, in the order of the data. -/
def all : List Direction :=
  [north, south, east, west, up, down]

/-- The exit slot of a direction. -/
def slot : Direction → Fin 6
  | north => 0
  | south => 1
  | east => 2
  | west => 3
  | up => 4
  | down => 5

/-- The direction a noun stands for: the nouns 1 to 6 are the exit slots. -/
def ofNoun? (noun : Nat) : Option Direction :=
  if noun = 0 then none else all[noun - 1]?

/-- The name under which an exit is listed. -/
def name : Direction → String
  | north => "North"
  | south => "South"
  | east => "East"
  | west => "West"
  | up => "Up"
  | down => "Down"

/-- A direction is the one its noun stands for. -/
@[simp]
theorem ofNoun?_slot (d : Direction) : ofNoun? (d.slot + 1) = some d := by
  cases d <;> rfl

end Direction

/-! ## Rooms -/

/-- A room: the rooms its exits lead to, where zero is no exit, and its description. -/
structure Room where
  exits : Vector Nat 6
  description : String
deriving Repr, DecidableEq

/-- The room that an exit leads to. -/
def Room.exit (room : Room) (d : Direction) : Nat :=
  room.exits[d.slot]

end TextAdventure
