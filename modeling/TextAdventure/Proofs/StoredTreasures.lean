import Mathlib.Data.Finset.Card
import Mathlib.Data.Finset.Range
import TextAdventure.Game.Narration
import TextAdventure.Proofs.RecordedSteps

/-!
# Stored treasures

The score counts the treasures that lie in the treasure room.  The treasure room is a number that
the header of the data gives and that is not looked at when the data is read.  If it happens to be
the number of the inventory, the treasures that the player holds are counted, and no others.  In all
other adventures each treasure that is counted lies in a room.

Main results:

- Definitions `World.treasureItems` and `World.storedItems`: the treasures, and those that are
  counted.
- Theorem `storedTreasures_eq_card`: what the score counts.
- Definition `World.gathered` and theorem `Session.visits_gathered`: any treasures can be the ones
  that are stored in some state of a game.
- Theorem `Session.stored_in_rooms_iff`: when the treasures that are counted all lie in rooms.
-/

namespace TextAdventure

/-! ## The treasures of a world -/

/-- The numbers of the treasures of a world. -/
def World.treasureItems (world : World) : Finset Nat :=
  (Finset.range world.items.length).filter fun i => world.items[i]?.any Item.isTreasure

/-- The numbers of the treasures that are in the treasure room. -/
def World.storedItems (world : World) (s : State) : Finset Nat :=
  world.treasureItems.filter fun i => s.location? i = some world.header.treasureRoom

namespace World

variable {world : World} {s : State} {i : Nat}

theorem mem_treasureItems_iff :
    i ∈ world.treasureItems ↔ ∃ item, world.items[i]? = some item ∧ item.isTreasure = true := by
  rw [treasureItems, Finset.mem_filter, Finset.mem_range, Option.any_eq_true]
  refine ⟨And.right, fun h => ⟨?_, h⟩⟩
  obtain ⟨item, hitem, -⟩ := h
  exact (List.getElem?_eq_some_iff.1 hitem).1

theorem lt_of_mem_treasureItems (h : i ∈ world.treasureItems) : i < world.items.length :=
  Finset.mem_range.1 (Finset.mem_filter.1 h).1

theorem mem_storedItems_iff :
    i ∈ world.storedItems s ↔
      i ∈ world.treasureItems ∧ s.location? i = some world.header.treasureRoom :=
  Finset.mem_filter

theorem storedItems_subset (world : World) (s : State) :
    world.storedItems s ⊆ world.treasureItems :=
  Finset.filter_subset _ _

end World

/-- Entries that pass a test are counted by their places. -/
theorem countP_eq_card_places {α : Type} (p : α → Bool) (xs : List α) :
    xs.countP p = ((Finset.range xs.length).filter fun i => xs[i]?.any p).card := by
  induction xs using List.reverseRecOn with
  | nil => rfl
  | append_singleton xs x ih =>
    have hbefore : (Finset.range xs.length).filter (fun i => (xs ++ [x])[i]?.any p) =
        (Finset.range xs.length).filter fun i => xs[i]?.any p :=
      Finset.filter_congr fun i hi => by rw [List.getElem?_append_left (Finset.mem_range.1 hi)]
    rw [List.countP_append, ih, List.length_append, List.length_singleton, Finset.range_add_one,
      Finset.filter_insert, hbefore]
    cases h : p x <;> simp [h]

/-- The score counts the treasures that are in the treasure room. -/
theorem storedTreasures_eq_card (world : World) (s : State) :
    Narration.storedTreasures world s = (world.storedItems s).card := by
  rw [Narration.storedTreasures, countP_eq_card_places]
  congr 1
  ext i
  simp only [Finset.mem_filter, Finset.mem_range, Option.any_eq_true, Prod.exists,
    List.getElem?_zip_eq_some, Bool.and_eq_true, beq_iff_eq, World.mem_storedItems_iff,
    World.mem_treasureItems_iff, State.location?]
  constructor
  · rintro ⟨-, item, location, ⟨hitem, hlocation⟩, htreasure, rfl⟩
    exact ⟨⟨item, hitem, htreasure⟩, hlocation⟩
  · rintro ⟨⟨item, hitem, htreasure⟩, hlocation⟩
    refine ⟨?_, item, _, ⟨hitem, hlocation⟩, htreasure, rfl⟩
    rw [List.length_zip]
    exact lt_min (List.getElem?_eq_some_iff.1 hitem).1 (List.getElem?_eq_some_iff.1 hlocation).1

/-! ## Where stored treasures are -/

namespace World

variable {world : World} {s : State} {i : Nat}

/-- Nothing is stored where the treasure room is not a location. -/
theorem storedItems_eq_empty (hs : s.Fits world)
    (h : world.isLocation world.header.treasureRoom = false) : world.storedItems s = ∅ := by
  refine Finset.eq_empty_of_forall_notMem fun i hi => ?_
  have hlocation := hs.isLocation_of_location? (mem_storedItems_iff.1 hi).2
  rw [h] at hlocation
  cases hlocation

/-- A treasure that is stored lies in a room, unless the treasure room is the inventory. -/
theorem exists_room_of_mem_storedItems (hs : s.Fits world)
    (h : world.header.treasureRoom ≠ carried) (hi : i ∈ world.storedItems s) :
    (∃ room ≤ world.header.lastRoom, s.location? i = some room) ∧ s.isCarried i = false := by
  have hlocation := (mem_storedItems_iff.1 hi).2
  have hroom := hs.isLocation_of_location? hlocation
  refine ⟨⟨world.header.treasureRoom, ?_, hlocation⟩, ?_⟩
  · simpa [isLocation, h] using hroom
  · simpa [State.isCarried, hlocation] using h

/-! ## States with given treasures in store -/

/-- A location other than the treasure room. -/
def elsewhere (world : World) : Nat :=
  if world.header.treasureRoom = storeroom then carried else storeroom

/-- The state of a new game in which the given items have been brought to the treasure room and all
others to another place. -/
def gathered (world : World) (items : Finset Nat) : State :=
  { State.initial world with
    locations := (List.range world.items.length).map fun i =>
      if i ∈ items then world.header.treasureRoom else world.elsewhere }

theorem elsewhere_ne (world : World) : world.elsewhere ≠ world.header.treasureRoom := by
  unfold elsewhere
  split_ifs with h
  · rw [h]
    decide
  · exact Ne.symm h

theorem isLocation_elsewhere (world : World) : world.isLocation world.elsewhere = true := by
  unfold elsewhere
  split_ifs
  · simp [isLocation]
  · simp [isLocation, storeroom]

/-- The state with the given items in the treasure room fits the world if the treasure room is a
location. -/
theorem fits_gathered (hworld : world.WellFormed)
    (h : world.isLocation world.header.treasureRoom = true) (items : Finset Nat) :
    (world.gathered items).Fits world where
  room_le := (State.fits_initial hworld).room_le
  altRoom_le := (State.fits_initial hworld).altRoom_le
  length_locations := by simp [gathered]
  isLocation := by
    intro location hlocation
    obtain ⟨i, -, rfl⟩ := List.mem_map.1 hlocation
    split_ifs
    · exact h
    · exact world.isLocation_elsewhere

/-- The treasures that are stored in this state are the given ones. -/
theorem storedItems_gathered {items : Finset Nat} (h : items ⊆ world.treasureItems) :
    world.storedItems (world.gathered items) = items := by
  ext i
  rw [mem_storedItems_iff]
  constructor
  · rintro ⟨htreasure, hlocation⟩
    by_contra hi
    simp [gathered, State.location?, lt_of_mem_treasureItems htreasure, hi, elsewhere_ne]
      at hlocation
  · intro hi
    refine ⟨h hi, ?_⟩
    simp [gathered, State.location?, lt_of_mem_treasureItems (h hi), hi]

end World

namespace Session

section Runs

variable {world : World} (hworld : world.WellFormed) (settings : Settings) (dice : Dice)

include hworld

/-- Some run leads through the state in which the given items are in the treasure room, if that is a
location. -/
theorem visits_gathered (h : world.isLocation world.header.treasureRoom = true)
    (items : Finset Nat) :
    (new world settings dice).Visits [.restore (world.gathered items)] (world.gathered items) :=
  visits_restore (World.fits_gathered hworld h items) rfl

/-- Where the treasure room has the number of the inventory, some run leads through a state in which
a treasure is counted that the player holds. -/
theorem exists_visits_counted_carried (hroom : world.header.treasureRoom = carried) {i : Nat}
    (hi : i ∈ world.treasureItems) :
    ∃ operations st, (new world settings dice).Visits operations st ∧ i ∈ world.storedItems st ∧
      st.isCarried i = true := by
  have hvisits := visits_gathered hworld settings dice (by simp [World.isLocation, hroom])
    world.treasureItems
  rw [← World.storedItems_gathered (Finset.Subset.refl world.treasureItems)] at hi
  have hheld := (World.mem_storedItems_iff.1 hi).2
  exact ⟨_, _, hvisits, hi, by simp [State.isCarried, hheld, hroom]⟩

end Runs

/-- In a world that has been read, with its own action table or with any other rows, and with any
settings, the score counts the treasures that are in the treasure room.  In every state that a run
leads through each of them lies in a room and is not held by the player: always, unless the treasure
room has the number of the inventory and there are treasures. -/
theorem stored_in_rooms_iff {text : String} {world : World} (hread : World.read text = .ok world)
    (rows : List Row) (settings : Settings) (dice : Dice) :
    let world := { world with rows }
    (∀ st, Narration.storedTreasures world st = (world.storedItems st).card) ∧
    ((∀ operations st, (new world settings dice).Visits operations st →
        ∀ i ∈ world.storedItems st,
          (∃ room ≤ world.header.lastRoom, st.location? i = some room) ∧ st.isCarried i = false) ↔
      world.header.treasureRoom ≠ carried ∨ world.treasureItems = ∅) := by
  intro world'
  have hworld : world'.WellFormed := (World.wellFormed_of_read hread).withRows rows
  refine ⟨storedTreasures_eq_card world', ?_, ?_⟩
  · intro h
    by_contra hcarried
    rw [not_or, not_not] at hcarried
    obtain ⟨hroom, htreasures⟩ := hcarried
    obtain ⟨i, hi⟩ := Finset.nonempty_iff_ne_empty.2 htreasures
    obtain ⟨operations, st, hst, hcounted, hheld⟩ :=
      exists_visits_counted_carried hworld settings dice hroom hi
    have hfree := (h operations st hst i hcounted).2
    rw [hheld] at hfree
    cases hfree
  · rintro (hroom | htreasures) operations st hst i hi
    · have hfits := (sound_new hworld settings dice).fits_of_visits hworld hst
      exact World.exists_room_of_mem_storedItems hfits hroom hi
    · have htreasure := world'.storedItems_subset st hi
      rw [htreasures] at htreasure
      exact absurd htreasure (Finset.notMem_empty i)

end Session

/-! ## A hoard and a purse -/

/-- A world with two treasures, of which the header counts one.  The treasure room is the room that
the player starts in. -/
def hoard : World where
  header := {
    lastItem := 1, lastRoom := 1, carryLimit := 5, startRoom := 1, treasures := 1, wordLength := 3,
    lightTime := 10, treasureRoom := 1, version := 1, adventure := 2 }
  rows := [⟨0, .replicate 5 0, .replicate 2 0⟩]
  words := [⟨"AUT", false, .verb, 0⟩, ⟨"ANY", false, .noun, 0⟩]
  rooms := [⟨.replicate 6 0, ""⟩, ⟨.replicate 6 0, "vault"⟩]
  messages := [""]
  items := [⟨"*coin", none, 1⟩, ⟨"*ring", none, 255⟩]
  titles := [""]

/-- The data of this world. -/
def hoardText : String :=
  "0 1 0 0 1 5 1 1 3 10 0 1 0 0 0 0 0 0 0 0 \"AUT\" \"ANY\"
0 0 0 0 0 0 \"\" 0 0 0 0 0 0 \"vault\" \"\"
\"*coin\" 1 \"*ring\" 255 \"\" 1 2 2"

theorem read_hoard : World.read hoardText = .ok hoard := by
  decide +kernel

/-- The same world, but the header counts both treasures, and the treasure room has the number of
the inventory. -/
def purse : World :=
  { hoard with header := { hoard.header with treasures := 2, treasureRoom := 255 } }

/-- The data of this world. -/
def purseText : String :=
  "0 1 0 0 1 5 1 2 3 10 0 255 0 0 0 0 0 0 0 0 \"AUT\" \"ANY\"
0 0 0 0 0 0 \"\" 0 0 0 0 0 0 \"vault\" \"\"
\"*coin\" 1 \"*ring\" 255 \"\" 1 2 2"

theorem read_purse : World.read purseText = .ok purse := by
  decide +kernel

namespace Session

/-- In the hoard one treasure is counted at the start, and whatever is done, the treasures that are
counted lie in a room. -/
theorem stored_in_rooms_hoard :
    World.read hoardText = .ok hoard ∧ Narration.storedTreasures hoard (State.initial hoard) = 1 ∧
      ∀ operations st, (new hoard {} (Dice.ofSeed 0)).Visits operations st →
        ∀ i ∈ hoard.storedItems st,
          (∃ room ≤ hoard.header.lastRoom, st.location? i = some room) ∧
            st.isCarried i = false := by
  obtain ⟨hcount, hrooms⟩ := stored_in_rooms_iff read_hoard hoard.rows {} (Dice.ofSeed 0)
  refine ⟨read_hoard, ?_, hrooms.2 (Or.inl (by decide))⟩
  rw [hcount]
  decide

/-- Not only treasures that lie in rooms are counted.  In the purse the ring is counted, which the
player holds from the start. -/
theorem not_stored_in_rooms :
    ¬∀ text world, World.read text = .ok world →
      ∀ (settings : Settings) (dice : Dice) (operations : List Operation) (st : State),
        (new world settings dice).Visits operations st →
        Narration.storedTreasures world st =
          ((world.storedItems st).filter fun i =>
            (st.location? i).any (· ≤ world.header.lastRoom)).card := by
  intro h
  have hcount := h _ purse read_purse {} (Dice.ofSeed 0) [] (State.initial purse) (Or.inl rfl)
  exact absurd hcount (by decide)

end Session

end TextAdventure
