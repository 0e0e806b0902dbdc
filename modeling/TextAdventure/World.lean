import TextAdventure.ActionTable.Row
import TextAdventure.Vocabulary.Word
import TextAdventure.World.Header
import TextAdventure.World.Item
import TextAdventure.World.Reference
import TextAdventure.World.Room

/-!
# The world of an adventure

What the data of an adventure describes and play never changes: the header counts, the action
table, the vocabulary, rooms, messages and items.  Tables are addressed by number, and a header
count is the highest number of its table.

Main results:

- Structure `World`.
- Definitions `World.isLocation` and `World.admits`: where an item can be, and what can be named.
-/

namespace TextAdventure

/-- Everything an adventure consists of.  The titles name the rows of the action table and have no
effect on play. -/
structure World where
  header : Header := {}
  rows : List Row := []
  words : List Word := []
  rooms : List Room := []
  messages : List String := []
  items : List Item := []
  titles : List String := []
deriving Repr, DecidableEq, Inhabited

/-- The title of a row, empty for a row that has none. -/
def World.title (world : World) (row : Nat) : String :=
  world.titles[row]?.getD ""

/-- An item is in the inventory, in the storeroom or in a room. -/
def World.isLocation (world : World) (location : Nat) : Bool :=
  location == carried || location ≤ world.header.lastRoom

/-- The world has what a reference names.  There are 32 flags, nine alternate counters and six
alternate rooms. -/
def World.admits (world : World) : Reference → Bool
  | .item i => i < world.items.length
  | .room r => r < world.rooms.length
  | .location l => world.isLocation l
  | .flag f => f < 32
  | .message m => m < world.messages.length
  | .altCounter c => c < 9
  | .altRoom r => r < 6

end TextAdventure
