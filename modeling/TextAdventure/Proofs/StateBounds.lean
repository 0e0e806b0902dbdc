import TextAdventure.Game.Saved
import TextAdventure.Proofs.Writes

/-!
# Bounds on the state

A state fits a world when its rooms are rooms of the world and its items are at locations of the
world, one for each item.  This is what a saved game is tested for before the game goes on from it.
Every write keeps it: rooms are only exchanged with rooms, and items only with items.

The counters are bounded in a second way.  They are written between minus one and the largest value
of a counter, or else below the value they had, so that counting down does not go below minus one.

Main results:

- Structure `State.Fits` and theorem `misfit?_eq_none_iff`: the test of a saved game.
- Theorems `fits_initial` and `Writes.fits`: a new game fits, and whatever is written still fits.
- Structure `CounterRange` and theorem `Writes.everyCounter`: the bounds on the counters are kept.
-/

namespace TextAdventure

/-- What holds of every entry of a table and of a new entry holds after the new entry is written. -/
theorem forall_mem_set {α : Type} {n : Nat} {xs : Vector α n} {P : α → Prop}
    (h : ∀ x ∈ xs, P x) {i : Nat} (hi : i < n) {a : α} (ha : P a) : ∀ x ∈ xs.set i a, P x := by
  intro x hx
  rcases @Vector.mem_or_eq_of_mem_set _ _ _ _ _ _ hi hx with hold | rfl
  · exact h x hold
  · exact ha

/-! ## States that fit a world -/

/-- The rooms and the locations of a state are those of a world, and each item of the world has
exactly one location. -/
structure State.Fits (world : World) (s : State) : Prop where
  room_le : s.room ≤ world.header.lastRoom
  altRoom_le : ∀ room ∈ s.altRooms, room ≤ world.header.lastRoom
  length_locations : s.locations.length = world.items.length
  isLocation : ∀ location ∈ s.locations, world.isLocation location = true

/-- A room is a location. -/
theorem World.isLocation_of_le {world : World} {room : Nat} (h : room ≤ world.header.lastRoom) :
    world.isLocation room = true := by
  simp [isLocation, h]

namespace State.Fits

variable {world : World} {s t : State}

theorem settled (h : s.Fits world) : s.settled.Fits world :=
  ⟨h.room_le, h.altRoom_le, h.length_locations, h.isLocation⟩

/-- The player is in a room, which is not the inventory. -/
theorem room_ne_carried (h : s.Fits world) (hworld : world.WellFormed) : s.room ≠ carried := by
  have hroom := h.room_le
  have hlast : world.header.lastRoom ≤ 253 := hworld.lastRoom_le
  have hcarried : carried = 255 := rfl
  omega

/-- Where an item is, is a location. -/
theorem isLocation_of_location? (h : s.Fits world) {item location : Nat}
    (hitem : s.location? item = some location) : world.isLocation location = true :=
  h.isLocation location (List.mem_of_getElem? hitem)

/-- An item is moved to a location. -/
theorem moveItem (h : s.Fits world) (item : Nat) {location : Nat}
    (hlocation : world.isLocation location = true) : (s.moveItem item location).Fits world where
  room_le := h.room_le
  altRoom_le := h.altRoom_le
  length_locations := by rw [State.length_moveItem, h.length_locations]
  isLocation := by
    intro l hl
    rcases List.mem_or_eq_of_mem_set hl with hold | rfl
    · exact h.isLocation l hold
    · exact hlocation

/-- The player enters a room. -/
theorem enter (h : s.Fits world) {room : Nat} (hroom : room ≤ world.header.lastRoom) :
    { s with room := room }.Fits world :=
  ⟨hroom, h.altRoom_le, h.length_locations, h.isLocation⟩

/-- An exchange of rooms takes a room from either side to the other. -/
theorem swapRoom (h : s.Fits world) (slot : Nat) : (s.swapRoom slot).Fits world := by
  unfold State.swapRoom
  split
  · rename_i hslot
    exact ⟨h.altRoom_le _ (Vector.getElem_mem hslot), forall_mem_set h.altRoom_le hslot h.room_le,
      h.length_locations, h.isLocation⟩
  · exact h

/-- An item is moved to where another one is. -/
theorem putWith (h : s.Fits world) (item other : Nat) : (s.putWith item other).Fits world := by
  unfold State.putWith
  split
  · rename_i location hlocation
    exact h.moveItem item (h.isLocation_of_location? hlocation)
  · exact h

/-- An exchange of locations takes a location from either item to the other. -/
theorem swapItems (h : s.Fits world) (a b : Nat) : (s.swapItems a b).Fits world := by
  unfold State.swapItems
  split
  · rename_i la lb ha hb
    have hmoved := h.moveItem a (h.isLocation_of_location? hb)
    exact hmoved.moveItem b (h.isLocation_of_location? ha)
  · exact h

/-- Every write keeps a state fitting. -/
theorem write (h : s.Fits world) (hwrite : Write world s t) : t.Fits world := by
  cases hwrite with
  | place item hlocation => exact h.moveItem item hlocation
  | putHere item => exact h.moveItem item (World.isLocation_of_le h.room_le)
  | putWith item other => exact h.putWith item other
  | swapItems a b => exact h.swapItems a b
  | enter hroom => exact h.enter hroom
  | swapRoom slot => exact h.swapRoom slot
  | swapCounter slot =>
    unfold State.swapCounter
    split
    · exact ⟨h.room_le, h.altRoom_le, h.length_locations, h.isLocation⟩
    · exact h
  | setFlag | setCounter | setLight =>
    exact ⟨h.room_le, h.altRoom_le, h.length_locations, h.isLocation⟩

end State.Fits

/-- Whatever is written to a state that fits, the state still fits. -/
theorem Writes.fits {world : World} {s t : State} (h : Writes world s t) (hs : s.Fits world) :
    t.Fits world :=
  h.invariant (fun _ _ hfits hwrite => hfits.write hwrite) hs

/-- A new game fits its world. -/
theorem State.fits_initial {world : World} (h : world.WellFormed) :
    (State.initial world).Fits world where
  room_le := h.startRoom_le
  altRoom_le := by
    intro room hroom
    have hzero : room = 0 := by simpa [initial, blank] using hroom
    omega
  length_locations := by simp [initial]
  isLocation := by
    intro location hlocation
    obtain ⟨item, hitem, rfl⟩ := List.mem_map.1 hlocation
    exact h.isLocation_home item hitem

/-! ## The test of a saved game -/

namespace Session

theorem misfitRoom?_eq_none_iff (world : World) (s : State) :
    misfitRoom? world s = none ↔ ∀ room ∈ s.altRooms, room ≤ world.header.lastRoom := by
  unfold misfitRoom?
  rw [List.findSome?_eq_none_iff]
  constructor
  · intro h room hroom
    obtain ⟨slot, hslot⟩ := List.mem_iff_getElem?.1 (Vector.mem_toList_iff.2 hroom)
    have hpassed := h (room, slot) (List.mk_mem_zipIdx_iff_getElem?.2 hslot)
    simpa using hpassed
  · rintro h ⟨room, slot⟩ hmem
    have hroom := List.mem_of_getElem? (List.mk_mem_zipIdx_iff_getElem?.1 hmem)
    simpa using h room (Vector.mem_toList_iff.1 hroom)

theorem misfitItem?_eq_none_iff (world : World) (s : State) :
    misfitItem? world s = none ↔ ∀ location ∈ s.locations, world.isLocation location = true := by
  unfold misfitItem?
  rw [List.findSome?_eq_none_iff]
  constructor
  · intro h location hlocation
    obtain ⟨item, hitem⟩ := List.mem_iff_getElem?.1 hlocation
    have hpassed := h (location, item) (List.mk_mem_zipIdx_iff_getElem?.2 hitem)
    simpa using hpassed
  · rintro h ⟨location, item⟩ hmem
    have hlocation := List.mem_of_getElem? (List.mk_mem_zipIdx_iff_getElem?.1 hmem)
    simpa using h location hlocation

/-- A saved game passes its test exactly when its state fits the world. -/
theorem misfit?_eq_none_iff (world : World) (s : State) :
    misfit? world s = none ↔ s.Fits world := by
  unfold misfit?
  split_ifs with hlength hroom
  · simp only [false_iff]
    exact fun h => hlength h.length_locations
  · simp only [false_iff]
    exact fun h => absurd h.room_le (by omega)
  · rw [Option.or_eq_none_iff, misfitRoom?_eq_none_iff, misfitItem?_eq_none_iff]
    constructor
    · rintro ⟨hrooms, hitems⟩
      exact ⟨by omega, hrooms, by omega, hitems⟩
    · intro h
      exact ⟨h.altRoom_le, h.isLocation⟩

end Session

/-! ## Counters -/

/-- A condition on counters that holds from minus one up to the largest value of a counter, and
that counting down keeps as far as minus one. -/
structure CounterRange (P : Int → Prop) : Prop where
  of_le_max : ∀ n, -1 ≤ n → n ≤ counterMax → P n
  of_le : ∀ m n, P n → -1 ≤ m → m ≤ n → P m

/-- The values that a counter is written with. -/
theorem CounterRange.bounded : CounterRange fun n => -1 ≤ n ∧ n ≤ counterMax where
  of_le_max _ hlow hhigh := ⟨hlow, hhigh⟩
  of_le _ _ hn hlow hle := ⟨hlow, Int.le_trans hle hn.2⟩

/-- The counter and the alternate counters all satisfy a condition. -/
structure State.EveryCounter (P : Int → Prop) (s : State) : Prop where
  counter : P s.counter
  altCounter : ∀ n ∈ s.altCounters, P n

namespace State.EveryCounter

variable {P : Int → Prop} {world : World} {s t : State}

/-- The counter is written within a range. -/
theorem setCounter (hrange : CounterRange P) (h : s.EveryCounter P) {value : Int}
    (hvalue : value ≤ counterMax ∨ value ≤ s.counter) : (s.setCounter value).EveryCounter P where
  altCounter := h.altCounter
  counter := by
    have hfloor : P (-1) := hrange.of_le_max (-1) (by omega) (by decide)
    show P (max value (-1))
    by_cases hlow : value ≤ -1
    · rw [Int.max_eq_right hlow]
      exact hfloor
    · rw [Int.max_eq_left (by omega)]
      rcases hvalue with hmax | hold
      · exact hrange.of_le_max value (by omega) hmax
      · exact hrange.of_le value s.counter h.counter (by omega) hold

/-- The light is written within a range. -/
theorem setLight (hrange : CounterRange P) (h : s.EveryCounter P) {turns : Int}
    (hfloor : 0 ≤ turns) (hturns : turns ≤ counterMax ∨ turns ≤ s.light) :
    (s.setLight turns).EveryCounter P where
  counter := h.counter
  altCounter := by
    refine forall_mem_set h.altCounter lightSlot.isLt ?_
    rcases hturns with hmax | hlight
    · exact hrange.of_le_max turns (by omega) hmax
    · have hsource : P s.light := h.altCounter _ (Vector.getElem_mem _)
      exact hrange.of_le turns s.light hsource (by omega) hlight

/-- An exchange of counters takes a counter from either side to the other. -/
theorem swapCounter (h : s.EveryCounter P) (slot : Nat) : (s.swapCounter slot).EveryCounter P := by
  unfold State.swapCounter
  split
  · rename_i hslot
    exact ⟨h.altCounter _ (Vector.getElem_mem hslot),
      forall_mem_set h.altCounter hslot h.counter⟩
  · exact h

/-- Every write keeps the counters within a range. -/
theorem write (hrange : CounterRange P) (h : s.EveryCounter P) (hwrite : Write world s t) :
    t.EveryCounter P := by
  cases hwrite with
  | setCounter hvalue => exact h.setCounter hrange hvalue
  | setLight hfloor hturns => exact h.setLight hrange hfloor hturns
  | swapCounter slot => exact h.swapCounter slot
  | swapItems a b =>
    unfold State.swapItems
    split <;> exact ⟨h.counter, h.altCounter⟩
  | putWith item other =>
    unfold State.putWith
    split <;> exact ⟨h.counter, h.altCounter⟩
  | swapRoom slot =>
    unfold State.swapRoom
    split <;> exact ⟨h.counter, h.altCounter⟩
  | place | putHere | enter | setFlag => exact ⟨h.counter, h.altCounter⟩

end State.EveryCounter

/-- Whatever is written, the counters stay within a range. -/
theorem Writes.everyCounter {P : Int → Prop} (hrange : CounterRange P) {world : World}
    {s t : State} (h : Writes world s t) (hs : s.EveryCounter P) : t.EveryCounter P :=
  h.invariant (fun _ _ hcounters hwrite => hcounters.write hrange hwrite) hs

/-- The counters of a new game are zero, apart from the light. -/
theorem State.everyCounter_initial {P : Int → Prop} (hrange : CounterRange P) {world : World}
    (h : world.WellFormed) : (State.initial world).EveryCounter P where
  counter := hrange.of_le_max 0 (by omega) (by decide)
  altCounter := by
    have hlight := h.lightTime_lt
    refine forall_mem_set ?_ lightSlot.isLt
      (hrange.of_le_max _ (by omega) (by unfold counterMax; omega))
    intro n hn
    have hzero : n = 0 := by simpa [blank] using hn
    rw [hzero]
    exact hrange.of_le_max 0 (by omega) (by decide)

end TextAdventure
