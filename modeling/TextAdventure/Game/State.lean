import TextAdventure.Game.Flags
import TextAdventure.World

/-!
# The state of a game

What play changes: the room the player is in, where each item is, the flags, the counters and the
alternate rooms.  The counter is never written below minus one, and the last of the nine alternate
counters is the light that remains.

Main results:

- Structure `State` and definition `State.initial`: the state a world starts in.
- Definitions `State.moveItem`, `State.setCounter` and `State.isDark`: what play asks of a state.
- Theorems `location?_moveItem_same` and `location?_moveItem_of_ne`: what a move does.
-/

namespace TextAdventure

/-- The state of a game.  `chaining` says that the last row run asked to be continued; it is only
set while a pass over the action table is under way. -/
structure State where
  room : Nat
  locations : List Nat
  flags : Flags
  counter : Int
  altCounters : Vector Int 9
  altRooms : Vector Nat 6
  chaining : Bool
deriving Repr, DecidableEq, Inhabited

/-! ## Counting -/

/-- The largest value of a counter. -/
def counterMax : Int := 0x7FFFFFFF

/-- The smallest value of a counter. -/
def counterMin : Int := -0x80000000

/-- The number a counter command counts by, limited to the largest value of a counter. -/
def countOf (operand : Nat) : Int :=
  min (operand : Int) counterMax

/-- The value after one step down.  Below the smallest value that a counter can hold comes the
largest one, as in arithmetic with 32 bits that wraps around. -/
def countDown (value : Int) : Int :=
  if value = counterMin then counterMax else value - 1

/-- A value limited to those that a counter can hold. -/
def clampCounter (value : Int) : Int :=
  max counterMin (min value counterMax)

namespace State

/-- A state without items in which every number is zero. -/
def blank : State where
  room := 0
  locations := []
  flags := Flags.clear
  counter := 0
  altCounters := Vector.replicate 9 0
  altRooms := Vector.replicate 6 0
  chaining := false

/-- The alternate counter that holds the remaining light. -/
def lightSlot : Fin 9 := 8

/-- The state a world starts in. -/
def initial (world : World) : State :=
  { blank with
    room := world.header.startRoom
    locations := world.items.map Item.home
    altCounters := blank.altCounters.set lightSlot world.header.lightTime }

/-! ## Items -/

/-- Where an item is; nothing for an unknown item. -/
def location? (s : State) (item : Nat) : Option Nat :=
  s.locations[item]?

/-- Move an item; the move of an unknown item has no effect. -/
def moveItem (s : State) (item location : Nat) : State :=
  { s with locations := s.locations.set item location }

/-- The player holds the item. -/
def isCarried (s : State) (item : Nat) : Bool :=
  s.location? item == some carried

/-- The item is in the player's room. -/
def isHere (s : State) (item : Nat) : Bool :=
  s.location? item == some s.room

/-- The item is out of play. -/
def isStored (s : State) (item : Nat) : Bool :=
  s.location? item == some storeroom

/-- How many items the player holds. -/
def carriedCount (s : State) : Nat :=
  s.locations.countP (· == carried)

/-! ## Counters, light and rooms -/

/-- The turns of light that remain. -/
def light (s : State) : Int :=
  s.altCounters[lightSlot]

/-- Set the turns of light that remain. -/
def setLight (s : State) (turns : Int) : State :=
  { s with altCounters := s.altCounters.set lightSlot turns }

/-- Write the counter, which stops at minus one. -/
def setCounter (s : State) (value : Int) : State :=
  { s with counter := max value (-1) }

/-- Write a flag. -/
def setFlag (s : State) (flag : Nat) (value : Bool) : State :=
  { s with flags := s.flags.set flag value }

/-- The state without the mark that the last row run asked to be continued. -/
def settled (s : State) : State :=
  { s with chaining := false }

/-- It is night, and the light source is neither held nor in the player's room. -/
def isDark (s : State) (lamp : Nat) : Bool :=
  s.flags.get Flags.night && !s.isCarried lamp && !s.isHere lamp

/-! ## Exchanges -/

/-- Exchange the locations of two items; nothing happens when either is unknown. -/
def swapItems (s : State) (a b : Nat) : State :=
  match s.location? a, s.location? b with
  | some la, some lb => (s.moveItem a lb).moveItem b la
  | _, _ => s

/-- Move an item to where another one is. -/
def putWith (s : State) (item other : Nat) : State :=
  match s.location? other with
  | some location => s.moveItem item location
  | none => s

/-- Exchange the counter with an alternate counter, without regard to the counter's floor. -/
def swapCounter (s : State) (slot : Nat) : State :=
  if h : slot < 9 then
    { s with counter := s.altCounters[slot], altCounters := s.altCounters.set slot s.counter }
  else s

/-- Exchange the room with an alternate room. -/
def swapRoom (s : State) (slot : Nat) : State :=
  if h : slot < 6 then
    { s with room := s.altRooms[slot], altRooms := s.altRooms.set slot s.room }
  else s

/-- Give the player a light source that is full again. -/
def fill (s : State) (lamp turns : Nat) : State :=
  ((s.setLight turns).setFlag Flags.lightOut false).moveItem lamp carried

/-! ## Reading back -/

/-- A move keeps the number of items. -/
@[simp]
theorem length_moveItem (s : State) (item location : Nat) :
    (s.moveItem item location).locations.length = s.locations.length := by
  simp [moveItem]

/-- An item is where it was moved last. -/
theorem location?_moveItem_same (s : State) {item : Nat} (location : Nat)
    (h : item < s.locations.length) :
    (s.moveItem item location).location? item = some location := by
  simp [moveItem, location?, h]

/-- A move leaves every other item where it is. -/
theorem location?_moveItem_of_ne (s : State) {item other : Nat} (location : Nat)
    (h : other ≠ item) : (s.moveItem item location).location? other = s.location? other := by
  simp [moveItem, location?, List.getElem?_set_ne h.symm]

/-- The move of an unknown item has no effect. -/
theorem moveItem_of_unknown {s : State} {item : Nat} (location : Nat)
    (h : s.locations.length ≤ item) : s.moveItem item location = s := by
  simp [moveItem, List.set_eq_of_length_le h]

/-- A settled state stays as it is when it is settled again. -/
@[simp]
theorem settled_settled (s : State) : s.settled.settled = s.settled := rfl

/-- A state in which no row asked to be continued is settled. -/
theorem settled_eq_self {s : State} (h : s.chaining = false) : s.settled = s := by
  cases s
  simp_all [settled]

end State

end TextAdventure
