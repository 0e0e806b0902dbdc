import TextAdventure.Proofs.RowReferences

/-!
# Laws of the conditions

Most conditions come in two wordings, one of which is the negation of the other.  On an item that
exists they are opposites; on an item that does not exist both fail.  An item is either held, or
here, or neither, and never two of these at once, since a room never has the number of the
inventory.  A row holds when the conditions in its five slots do, in whatever order they stand.

Main results:

- Definition `ItemTest.opposite`: the other wording of a test on an item.
- Structure `State.ConditionLaws`: what the conditions have to do with each other in a state.
- Theorem `Session.condition_laws`: the laws hold in every state that a run leads through.
-/

namespace TextAdventure

/-! ## Tests on the location of an item -/

namespace ItemTest

/-- The test with the opposite wording. -/
def opposite : ItemTest → ItemTest
  | carried => notCarried
  | notCarried => carried
  | here => notHere
  | notHere => here
  | available => notAvailable
  | notAvailable => available
  | stored => inPlay
  | inPlay => stored
  | atHome => notAtHome
  | notAtHome => atHome

/-- The opposite of a test is passed exactly when the test is not, if the item has a home. -/
theorem holds_opposite (test : ItemTest) (location room home : Nat) :
    test.opposite.holds location room (some home) = !test.holds location room (some home) := by
  cases test <;> simp [opposite, holds, bne]

/-- Whether an item is held, is here, or is neither of these, as the test that says so. -/
def whereabouts (location room : Nat) : ItemTest :=
  if location = TextAdventure.carried then carried
  else if location = room then here
  else notAvailable

/-- Of the three tests on where an item is, the one that is passed is its whereabouts, if the room
is not the inventory. -/
theorem holds_iff_eq_whereabouts {test : ItemTest} (htest : test ∈ [carried, here, notAvailable])
    {room : Nat} (hroom : room ≠ TextAdventure.carried) (location : Nat) (home? : Option Nat) :
    test.holds location room home? = true ↔ test = whereabouts location room := by
  unfold whereabouts
  simp only [List.mem_cons, List.not_mem_nil, or_false] at htest
  split_ifs with hheld hhere
  · rcases htest with rfl | rfl | rfl <;> simp [holds, hheld, hroom.symm]
  · rcases htest with rfl | rfl | rfl <;> simp [holds, hhere, hroom]
  · rcases htest with rfl | rfl | rfl <;> simp [holds, hheld, hhere]

/-- Of being held, being here and neither, exactly one is the case, if the room is not the
inventory. -/
theorem existsUnique_holds {room : Nat} (hroom : room ≠ TextAdventure.carried) (location : Nat)
    (home? : Option Nat) :
    ∃! test, test ∈ [carried, here, notAvailable] ∧ test.holds location room home? = true := by
  have hmem : whereabouts location room ∈ [carried, here, notAvailable] := by
    unfold whereabouts
    split_ifs <;> simp
  refine ⟨whereabouts location room, ⟨hmem, ?_⟩, ?_⟩
  · exact (holds_iff_eq_whereabouts hmem hroom location home?).2 rfl
  · rintro test ⟨htest, hholds⟩
    exact (holds_iff_eq_whereabouts htest hroom location home?).1 hholds

end ItemTest

/-! ## Rows -/

namespace Row

variable (world : World) (s : State)

/-- A row holds when the conditions in its five slots do.  A slot that is not in use holds. -/
theorem holds_eq_true_iff (row : Row) :
    row.holds world s = true ↔
      ∀ slot, (Condition.decode (row.conditions.get slot)).holds world s = true := by
  unfold holds
  rw [List.all_eq_true]
  constructor
  · intro h slot
    by_cases hzero : row.conditions.get slot = 0
    · rw [hzero]
      exact Condition.holds_decode_zero world s
    · exact h _ (mem_tests_iff.2 ⟨slot, hzero, rfl⟩)
  · rintro h c hc
    obtain ⟨slot, -, rfl⟩ := mem_tests_iff.1 hc
    exact h slot

/-- Rows with the same condition slots in different orders hold in the same states. -/
theorem holds_eq_of_perm {row row' : Row}
    (h : row'.conditions.toList.Perm row.conditions.toList) :
    row'.holds world s = row.holds world s :=
  ((h.filter _).map _).all_eq

end Row

/-! ## The laws -/

/-- What the conditions have to do with each other in a state of the game. -/
structure State.ConditionLaws (world : World) (s : State) : Prop where
  oneOfThree : ∀ i < world.items.length, ∃! test,
    test ∈ [ItemTest.carried, .here, .notAvailable] ∧
      (Condition.item test i).holds world s = true
  available : ∀ i, (Condition.item .available i).holds world s =
    ((Condition.item .carried i).holds world s || (Condition.item .here i).holds world s)
  opposite : ∀ i < world.items.length, ∀ test,
    (Condition.item test.opposite i).holds world s = !(Condition.item test i).holds world s
  unknown : ∀ i, world.items.length ≤ i → ∀ test,
    (Condition.item test i).holds world s = false
  notInRoom : ∀ room,
    (Condition.notInRoom room).holds world s = !(Condition.inRoom room).holds world s
  flagClear : ∀ flag,
    (Condition.flagClear flag).holds world s = !(Condition.flagSet flag).holds world s
  above : ∀ n,
    (Condition.counter .above n).holds world s = !(Condition.counter .atMost n).holds world s
  equal : ∀ n, (Condition.counter .equal n).holds world s = true ↔
    (Condition.counter .atMost n).holds world s = true ∧ ¬s.counter < n
  carryingNone :
    Condition.carryingNone.holds world s = !Condition.carryingAny.holds world s
  carryingAny : Condition.carryingAny.holds world s = true ↔
    ∃ i, (Condition.item .carried i).holds world s = true
  row : ∀ row : Row, row.holds world s = true ↔
    ∀ slot, (Condition.decode (row.conditions.get slot)).holds world s = true
  anyOrder : ∀ row row' : Row, row'.conditions.toList.Perm row.conditions.toList →
    row'.holds world s = row.holds world s

namespace State

variable {world : World} {s : State}

/-- A test on an item that exists looks at its location and its home. -/
theorem Fits.holds_item (hs : s.Fits world) {i : Nat} (hi : i < world.items.length) :
    ∃ location home, ∀ test : ItemTest,
      (Condition.item test i).holds world s = test.holds location s.room (some home) := by
  have hlocation : i < s.locations.length := by rw [hs.length_locations]; exact hi
  exact ⟨s.locations[i], world.items[i].home, fun test => by
    simp [Condition.holds, location?, hi, hlocation]⟩

/-- The player holds something when some item is held. -/
theorem holds_carryingAny_iff :
    Condition.carryingAny.holds world s = true ↔
      ∃ i, (Condition.item .carried i).holds world s = true := by
  simp only [Condition.holds, ItemTest.holds, carriedCount, location?, decide_eq_true_eq,
    gt_iff_lt, List.countP_pos_iff, beq_iff_eq, Option.any_eq_true]
  constructor
  · rintro ⟨location, hmem, hheld⟩
    obtain ⟨i, hi⟩ := List.mem_iff_getElem?.1 hmem
    exact ⟨i, location, hi, hheld⟩
  · rintro ⟨i, location, hi, hheld⟩
    exact ⟨location, List.mem_of_getElem? hi, hheld⟩

/-- The laws hold in a state that fits the world. -/
theorem Fits.conditionLaws (hs : s.Fits world) (hworld : world.WellFormed) :
    s.ConditionLaws world where
  oneOfThree i hi := by
    obtain ⟨location, home, htest⟩ := hs.holds_item hi
    simp only [htest]
    exact ItemTest.existsUnique_holds (hs.room_ne_carried hworld) location (some home)
  available i := by
    simp only [Condition.holds, ItemTest.holds]
    cases s.location? i <;> rfl
  opposite i hi test := by
    obtain ⟨location, home, htest⟩ := hs.holds_item hi
    rw [htest, htest, ItemTest.holds_opposite]
  unknown i hi test := by
    refine Condition.holds_item_of_unknown test ?_
    simpa [location?, hs.length_locations] using hi
  notInRoom _ := rfl
  flagClear _ := rfl
  above n := by
    simp only [Condition.holds, CounterTest.holds, gt_iff_lt, ← decide_not, Int.not_le]
  equal n := by
    simp only [Condition.holds, CounterTest.holds, beq_iff_eq, decide_eq_true_eq]
    omega
  carryingNone := by
    rw [Bool.eq_iff_iff]
    simp [Condition.holds]
  carryingAny := holds_carryingAny_iff
  row := Row.holds_eq_true_iff world s
  anyOrder _ _ h := Row.holds_eq_of_perm world s h

end State

/-! ## Runs -/

namespace Session

/-- In a world that has been read, with its own action table or with any other rows, and with any
settings, take any operations.  The laws of the conditions hold in the state that they end in, and
in every state in which they take a step. -/
theorem condition_laws {text : String} {world : World} (hread : World.read text = .ok world)
    (rows : List Row) (settings : Settings) (dice : Dice) (operations : List Operation) {st : State}
    (hst : (new { world with rows } settings dice).Visits operations st) :
    st.ConditionLaws { world with rows } := by
  have hworld := (World.wellFormed_of_read hread).withRows rows
  exact ((sound_new hworld settings dice).fits_of_visits hworld hst).conditionLaws hworld

/-- In a small world, a row is tested while the player is in the room with the lamp. -/
theorem condition_laws_cell :
    let rows : List Row := [⟨0, #v[2, 0, 21, 0, 0], #v[12222, 0]⟩]
    let world := { cell with rows }
    let s := new world { lamp := 3 } (Dice.ofSeed 7)
    let operations : List Operation := [.restore State.blank, .move .start]
    World.read cellText = .ok cell ∧ s.Visits operations (State.initial world) ∧
      (State.initial world).ConditionLaws world := by
  intro rows world s operations
  have hvisits : s.Visits operations (State.initial world) :=
    Or.inr ⟨.tested 0 (State.initial world), by decide +kernel, rfl⟩
  exact ⟨read_cell, hvisits, condition_laws read_cell rows { lamp := 3 } (Dice.ofSeed 7) operations
    hvisits⟩

end Session

end TextAdventure
