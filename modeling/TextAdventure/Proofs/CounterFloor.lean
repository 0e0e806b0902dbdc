import TextAdventure.Proofs.RecordedSteps
import TextAdventure.Proofs.SavedSessions

/-!
# The floor of the counters

The counter is not meant to fall below minus one.  Only the counter itself is written with that
floor, but an exchange can bring any alternate counter in its place, the light included.  So the
floor holds for good exactly when it holds of all ten counters, and that is what play keeps.

A game that goes on from another state takes over the counters as they are.  A saved game is refused
when its counter is below the floor, while its alternate counters are not looked at; a state that is
handed over directly can have any counters at all.

Main results:

- Theorem `State.everyCounter_iff_exchanged`: the counters that exchanges can bring forward.
- Theorem `Session.floor_after`: play keeps every counter at its floor or above.
- Theorem `Session.floor_restored_iff`: when a restored game keeps the floor.
-/

namespace TextAdventure

open Text

/-! ## Exchanges -/

/-- The state after the counter has been exchanged with alternate counters, one after the other. -/
def State.exchanged (s : State) (slots : List Nat) : State :=
  slots.foldl State.swapCounter s

/-- A condition holds of all ten counters exactly when exchanges never bring forward a counter
without it. -/
theorem State.everyCounter_iff_exchanged {P : Int → Prop} {s : State} :
    s.EveryCounter P ↔ ∀ slots, P (s.exchanged slots).counter := by
  constructor
  · intro h slots
    induction slots generalizing s with
    | nil => exact h.counter
    | cons slot slots ih => exact ih (h.swapCounter slot)
  · intro h
    refine ⟨h [], ?_⟩
    intro n hn
    obtain ⟨slot, hslot, rfl⟩ := Vector.mem_iff_getElem.1 hn
    have hcounter := h [slot]
    simp only [exchanged, List.foldl_cons, List.foldl_nil, swapCounter, dif_pos hslot] at hcounter
    exact hcounter

/-- The wish to be continued is not a counter. -/
theorem State.everyCounter_settled {P : Int → Prop} {s : State} :
    s.settled.EveryCounter P ↔ s.EveryCounter P :=
  ⟨fun h => ⟨h.counter, h.altCounter⟩, fun h => ⟨h.counter, h.altCounter⟩⟩

/-! ## Play -/

/-- Counting down stops at minus one, and nothing else is written below it. -/
theorem CounterRange.floor : CounterRange (-1 ≤ ·) where
  of_le_max _ hlow _ := hlow
  of_le _ _ _ hlow _ := hlow

namespace Session

/-- An opening and a turn keep the counters within a range, and take each step with counters within
that range. -/
theorem everyCounter_move {P : Int → Prop} (hrange : CounterRange P) {s : Session}
    (hworld : s.world.WellFormed) (h : s.state.EveryCounter P) (m : Move) :
    (s.move m).1.state.EveryCounter P ∧
      ∀ entry ∈ (s.move m).2.journal, ∀ st, entry.state? = some st → st.EveryCounter P := by
  have hplays := plays_move hworld m
  have hbefore : s.state.settled.EveryCounter P := State.everyCounter_settled.2 h
  constructor
  · have hafter := hplays.evolves.writes.everyCounter hrange hbefore
    exact State.everyCounter_settled.1 hafter
  · intro entry hentry st hst
    exact (hplays.writes_of_mem_journal hentry hst).everyCounter hrange hbefore

/-- The same for a run of openings and turns. -/
theorem everyCounter_after {P : Int → Prop} (hrange : CounterRange P) {s : Session}
    (hworld : s.world.WellFormed) (h : s.state.EveryCounter P) (moves : List Move) :
    (s.after moves).state.EveryCounter P ∧
      ∀ entry ∈ s.journal (moves.map .move), ∀ st, entry.state? = some st → st.EveryCounter P := by
  have hrun := moves_induction (P := fun t => t.world.WellFormed ∧ t.state.EveryCounter P)
    (Q := fun entry => ∀ st, entry.state? = some st → st.EveryCounter P) ?_ ⟨hworld, h⟩ moves
  · exact ⟨hrun.1.2, hrun.2⟩
  · rintro t ⟨htworld, ht⟩ m
    obtain ⟨hafter, hsteps⟩ := everyCounter_move hrange htworld ht m
    refine ⟨⟨?_, hafter⟩, hsteps⟩
    rw [(plays_move htworld m).world_eq]
    exact htworld

/-- In a world that has been read, with its own action table or with any other rows, take a session
whose counters are all at minus one or above, as those of a new game are.  After any openings and
turns this still holds, and no counter is taken below the smallest value of a counter on the way:
neither by a command that counts down nor by the light that burns. -/
theorem floor_after {text : String} {world : World} (hread : World.read text = .ok world)
    (rows : List Row) {s : Session} (hs : s.world = { world with rows })
    (hfloor : s.state.EveryCounter (-1 ≤ ·)) (moves : List Move) :
    (State.initial s.world).EveryCounter (-1 ≤ ·) ∧
      (s.after moves).state.EveryCounter (-1 ≤ ·) ∧
      (∀ o st, .executed .decrementCounter o st ∈ s.journal (moves.map .move) →
        counterMin ≤ st.counter - 1) ∧
      ∀ st, .burned st ∈ s.journal (moves.map .move) → counterMin ≤ st.light - 1 := by
  have hworld : s.world.WellFormed := by
    rw [hs]
    exact (World.wellFormed_of_read hread).withRows rows
  obtain ⟨hafter, hsteps⟩ := everyCounter_after .floor hworld hfloor moves
  refine ⟨State.everyCounter_initial .floor hworld, hafter, ?_, ?_⟩
  · intro o st hmem
    have hcounter : -1 ≤ st.counter := (hsteps _ hmem st rfl).counter
    unfold counterMin
    omega
  · intro st hmem
    have hlight : -1 ≤ st.light := (hsteps _ hmem st rfl).altCounter _ (Vector.getElem_mem _)
    unfold counterMin
    omega

/-- Two moves in a small world, with the counter at its floor and the lamp in hand.  The row of the
world exchanges the counter with the light and counts down. -/
theorem floor_after_cell :
    let rows : List Row := [⟨0, #v[160, 0, 0, 0, 0], #v[12227, 0]⟩]
    let world := { cell with rows }
    let before := { State.initial world with counter := -1, locations := [carried] }
    let s := { new world { lamp := 0 } (Dice.ofSeed 7) with state := before }
    let moves : List Move := [.start, .turn "LOOK"]
    World.read cellText = .ok cell ∧ s.state.EveryCounter (-1 ≤ ·) ∧
      (s.after moves).state.EveryCounter (-1 ≤ ·) ∧
      (∀ o st, .executed .decrementCounter o st ∈ s.journal (moves.map .move) →
        counterMin ≤ st.counter - 1) ∧
      ∀ st, .burned st ∈ s.journal (moves.map .move) → counterMin ≤ st.light - 1 := by
  intro rows world before s moves
  have hworld : world.WellFormed := (World.wellFormed_of_read read_cell).withRows rows
  have hlight := (State.everyCounter_initial .floor hworld).altCounter
  have hfloor : s.state.EveryCounter (-1 ≤ ·) := ⟨Int.le_refl _, hlight⟩
  exact ⟨read_cell, hfloor, (floor_after read_cell rows (by rfl) hfloor moves).2⟩

end Session

/-! ## Saved games -/

namespace SaveFile

/-- The eight alternate counters that have a number, and the light, are at the floor or above. -/
structure Fields.AlternatesAboveFloor (fs : Fields) : Prop where
  altCounter : ∀ n, n < 8 → ∀ value,
    fs.field integer32? (key "alt_counter" n) = .ok value → -1 ≤ value
  light : ∀ value, fs.field integer32? "light" = .ok value → -1 ≤ value

end SaveFile

namespace Session

/-- A session goes on with the counters of the state that it is given. -/
theorem everyCounter_of_restore {P : Int → Prop} {s t : Session} {st : State}
    (h : s.restore st = .ok t) : t.state.EveryCounter P ↔ st.EveryCounter P := by
  obtain ⟨-, rfl⟩ := restore_eq_ok_iff.1 h
  exact State.everyCounter_settled

/-- A session that goes on from a saved game has its counter at the floor or above, and the
alternate counters have the values of the fields. -/
theorem everyCounter_of_load {s t : Session} {text : String} {fs : SaveFile.Fields}
    (hparse : SaveFile.parse text = .ok fs) (h : s.load text = .ok t) :
    -1 ≤ t.state.counter ∧ (t.state.EveryCounter (-1 ≤ ·) ↔ fs.AlternatesAboveFloor) := by
  obtain ⟨st, hread, hrestore⟩ := exists_of_bind_eq_ok h
  obtain ⟨parsed, hparsed, hstate⟩ := exists_of_bind_eq_ok hread
  rw [hparse] at hparsed
  cases hparsed
  obtain ⟨-, hholds, hfloor, -⟩ := SaveFile.stateOf_eq_ok_iff.1 hstate
  have haltCounter := fun slot => SaveFile.Fields.field_eq_ok_iff.2 (hholds.altCounter slot)
  have hlight := SaveFile.Fields.field_eq_ok_iff.2 hholds.light
  obtain ⟨-, rfl⟩ := restore_eq_ok_iff.1 hrestore
  refine ⟨hfloor, ?_⟩
  rw [State.everyCounter_settled]
  constructor
  · intro hall
    constructor
    · intro n hn value hvalue
      rw [haltCounter ⟨n, hn⟩] at hvalue
      cases hvalue
      exact hall.altCounter _ (Vector.getElem_mem _)
    · intro value hvalue
      rw [hlight] at hvalue
      cases hvalue
      exact hall.altCounter _ (Vector.getElem_mem _)
  · intro hfields
    refine ⟨hfloor, ?_⟩
    intro n hn
    obtain ⟨slot, hslot, rfl⟩ := Vector.mem_iff_getElem.1 hn
    by_cases hnumbered : slot < 8
    · exact hfields.altCounter slot hnumbered _ (haltCounter ⟨slot, hnumbered⟩)
    · have hlast : slot = State.lightSlot := by
        show slot = 8
        omega
      subst hlast
      exact hfields.light _ hlight

/-- A session that goes on from another state keeps the floor under all later exchanges exactly when
every counter of that state is at minus one or above.  A session that goes on from a saved game has
its counter at minus one or above, and keeps the floor under all later exchanges exactly when the
alternate counters and the light of the saved game are at minus one or above as well. -/
theorem floor_restored_iff (s t : Session) :
    (∀ st, s.restore st = .ok t →
      ((∀ slots, -1 ≤ (t.state.exchanged slots).counter) ↔ st.EveryCounter (-1 ≤ ·))) ∧
    ∀ text fs, SaveFile.parse text = .ok fs → s.load text = .ok t →
      -1 ≤ t.state.counter ∧
        ((∀ slots, -1 ≤ (t.state.exchanged slots).counter) ↔ fs.AlternatesAboveFloor) := by
  constructor
  · intro st h
    rw [← State.everyCounter_iff_exchanged (P := (-1 ≤ ·))]
    exact everyCounter_of_restore h
  · intro text fs hparse h
    rw [← State.everyCounter_iff_exchanged (P := (-1 ≤ ·))]
    exact everyCounter_of_load hparse h

/-- The floor is not kept by every session that goes on.  In a small world that has been read, a
state with a counter of minus five is accepted; and so is a saved game with an alternate counter of
minus five, which an exchange then makes the counter. -/
theorem not_floor_restored :
    (¬∀ text world, World.read text = .ok world → ∀ (s t : Session) (st : State),
      s.world = world → s.restore st = .ok t → -1 ≤ t.state.counter) ∧
    ¬∀ text world, World.read text = .ok world → ∀ (s t : Session) (saved : String),
      s.world = world → s.load saved = .ok t → -1 ≤ (t.state.swapCounter 0).counter := by
  have hworld := World.wellFormed_of_read read_cell
  have hfits := State.fits_initial hworld
  let s := new cell {} (Dice.ofSeed 0)
  constructor
  · intro h
    let st : State := { State.initial cell with counter := -5 }
    have hst : st.Fits s.world :=
      ⟨hfits.room_le, hfits.altRoom_le, hfits.length_locations, hfits.isLocation⟩
    have hrestore : s.restore st = .ok { s with state := st.settled } :=
      restore_eq_ok_iff.2 ⟨hst, rfl⟩
    have hfloor : (-1 : Int) ≤ -5 := h cellText cell read_cell s _ st rfl hrestore
    exact absurd hfloor (by decide)
  · intro h
    let st : State := { State.initial cell with altCounters := #v[-5, 0, 0, 0, 0, 0, 0, 0, 10] }
    have hst : st.Fits s.world :=
      ⟨hfits.room_le, hfits.altRoom_le, hfits.length_locations, hfits.isLocation⟩
    have hsound : { s with state := st }.Sound cell := ⟨rfl, hst, rfl⟩
    have hencodable : st.Encodable := by
      have hnew := State.everyCounter_initial .bounded hworld
      have hcell := State.encodable_of_fits hworld hfits hnew
      refine ⟨hcell.counter, ?_, hcell.room, hcell.altRoom, hcell.location⟩
      decide
    have hload : s.load { s with state := st }.save = .ok { s with state := st } :=
      load_save hworld hsound hencodable rfl
    have hfloor : (-1 : Int) ≤ -5 := h cellText cell read_cell s _ _ rfl hload
    exact absurd hfloor (by decide)

end Session

end TextAdventure
