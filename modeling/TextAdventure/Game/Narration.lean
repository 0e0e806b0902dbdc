import TextAdventure.Game.State
import TextAdventure.Text.Blank

/-!
# Narration

The texts that describe the room, what the player holds and the score.

Main results:

- Definitions `describeRoom`, `inventory` and `score`: the three reports, line by line.
- Definitions `storedTreasures` and `rating`: the numbers that the score reports.
-/

namespace TextAdventure

/-! ## Names of items -/

/-- The name of an item: its description without asterisks and surrounding blanks. -/
def World.itemName (world : World) (item : Nat) : String :=
  match world.items[item]? with
  | some i => Text.trim (String.ofList (i.description.toList.filter (· != '*')))
  | none => "unknown item"

/-- The numbers of the items at a location, ascending. -/
def State.itemsAt (s : State) (location : Nat) : List Nat :=
  (s.locations.zipIdx.filter fun (l, _) => l == location).map Prod.snd

/-! ## Rooms -/

namespace Narration

/-- The line that names a room.  An asterisk in front makes the description stand alone. -/
def roomLine (room : Room) : String :=
  match room.description.toList with
  | '*' :: rest => String.ofList rest
  | _ => s!"I'm in a {room.description}"

/-- The descriptions of the items in the player's room; an item without one is not seen. -/
def visible (world : World) (s : State) : List String :=
  ((s.itemsAt s.room).filterMap fun i => world.items[i]?.map Item.description).filter (· != "")

/-- The names of the exits of a room. -/
def exits (room : Room) : List String :=
  (Direction.all.filter fun d => room.exit d != 0).map Direction.name

/-- The report on a lit room. -/
def litRoom (world : World) (s : State) (room : Room) : List String :=
  let seen := visible world s
  let ways := exits room
  roomLine room ::
    ((if seen.isEmpty then [] else ["I can also see: " ++ " - ".intercalate seen]) ++
      [if ways.isEmpty then "Obvious exits: none" else "Obvious exits: " ++ ", ".intercalate ways])

/-- The report on the player's room. -/
def describeRoom (world : World) (s : State) (lamp : Nat) : List String :=
  if s.isDark lamp then ["I can't see. It is too dark!"]
  else
    match world.rooms[s.room]? with
    | some room => litRoom world s room
    | none => [s!"I'm nowhere (room {s.room})"]

/-! ## Inventory -/

/-- The report on what the player holds. -/
def inventory (world : World) (s : State) : List String :=
  let names := (s.itemsAt carried).map world.itemName
  if names.isEmpty then ["I'm carrying nothing."]
  else ["I'm carrying:", " - ".intercalate names]

/-! ## Score -/

/-- How many treasures lie in the treasure room. -/
def storedTreasures (world : World) (s : State) : Nat :=
  (world.items.zip s.locations).countP fun (item, location) =>
    item.isTreasure && location == world.header.treasureRoom

/-- The stored treasures out of a hundred; an adventure without treasures rates 100. -/
def rating (world : World) (s : State) : Nat :=
  if world.header.treasures = 0 then 100
  else storedTreasures world s * 100 / world.header.treasures

/-- The report on the score. -/
def score (world : World) (s : State) : List String :=
  let stored := storedTreasures world s
  let total := world.header.treasures
  [s!"I've stored {stored} treasures.",
    s!"On a scale of 0 to 100, that rates {rating world s}."] ++
    (if 0 < total ∧ total ≤ stored then ["Well done."] else [])

end Narration

end TextAdventure
