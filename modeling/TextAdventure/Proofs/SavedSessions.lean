import TextAdventure.Proofs.EncodedText
import TextAdventure.Proofs.SaveRoundTrip
import TextAdventure.Proofs.SessionRuns

/-!
# Sessions saved and loaded

Whatever state a game has come to, its saved text is accepted by every session in the same world,
which then goes on from exactly that state.  The text can hold every number of the state, because
the counters are written within their bounds and there are few rooms; and the state passes the test
of a saved game, because every turn keeps it fitting.

Main results:

- Theorem `encodable_of_fits`: the states of a game can be written to a saved game.
- Theorem `load_save`: a state that fits is loaded as it was saved.
- Theorem `load_save_after`: this holds after any moves, in a world that has been read.
-/

namespace TextAdventure

/-- A location is at most the number of the inventory. -/
theorem World.WellFormed.location_lt {world : World} (h : world.WellFormed) {location : Nat}
    (hlocation : world.isLocation location = true) : location < 0x10000000000000000 := by
  have hrooms : world.header.lastRoom ≤ 253 := h.lastRoom_le
  have hcases : location = 255 ∨ location ≤ world.header.lastRoom := by
    simpa [World.isLocation, carried] using hlocation
  omega

/-- A state that fits, and whose counters are within their bounds, can be written to a saved
game. -/
theorem State.encodable_of_fits {world : World} (hworld : world.WellFormed) {s : State}
    (hfits : s.Fits world) (hcounters : s.EveryCounter fun n => -1 ≤ n ∧ n ≤ counterMax) :
    s.Encodable where
  counter := by
    have hcounter := hcounters.counter
    unfold counterMax at hcounter
    omega
  altCounter := by
    intro n hn
    have hcounter := hcounters.altCounter n hn
    unfold counterMax at hcounter
    omega
  room := hworld.location_lt (World.isLocation_of_le hfits.room_le)
  altRoom := fun room hroom =>
    hworld.location_lt (World.isLocation_of_le (hfits.altRoom_le room hroom))
  location := fun location hlocation => hworld.location_lt (hfits.isLocation location hlocation)

namespace Session

/-- A state that fits its world is loaded as it was saved, by every session in the same world. -/
theorem load_save {world : World} (hworld : world.WellFormed) {s t : Session} (hs : s.Sound world)
    (hencodable : s.state.Encodable) (ht : t.world = world) :
    t.load s.save = .ok { t with state := s.state } := by
  obtain ⟨rfl, hfits, hsettled⟩ := hs
  have hadventure : s.world.header.adventure < 0x10000000000000000 := by
    have := hworld.adventure_lt
    omega
  have hread := SaveFile.read_render hencodable hadventure
  have hrestore : t.restore s.state.settled = .ok { t with state := s.state } := by
    rw [restore_eq_ok_iff, ht]
    exact ⟨hfits.settled, by rw [State.settled_settled, State.settled_eq_self hsettled]⟩
  have hload : t.load s.save = t.restore s.state.settled := by
    unfold load save
    rw [ht, hread]
    rfl
  rw [hload]
  exact hrestore

/-- The bytes of a text are loaded as the text. -/
theorem loadBytes_toUTF8 (s : Session) (text : String) :
    s.loadBytes text.toUTF8 = s.load text := by
  unfold loadBytes
  rw [fromUTF8?_toUTF8]

/-- In a world that has been read, with its own action table or with any other rows, the saved game
of a session after any moves is accepted by that session, and by every other session in the same
world, as text and as bytes; the state that is loaded is the state that was saved. -/
theorem load_save_after {text : String} {world : World} (hread : World.read text = .ok world)
    (rows : List Row) (settings : Settings) (dice : Dice) (moves : List Move) :
    let s := (new { world with rows } settings dice).after moves
    s.load s.save = .ok s ∧
      ∀ t : Session, t.world = { world with rows } →
        t.load s.save = .ok { t with state := s.state } ∧
          t.loadBytes s.save.toUTF8 = .ok { t with state := s.state } := by
  intro s
  have hworld := (World.wellFormed_of_read hread).withRows rows
  have hnew := sound_new hworld settings dice
  have hstart : (new { world with rows } settings dice).world.WellFormed := hworld
  obtain ⟨hsame, hwrites⟩ := writes_after hstart hnew.settled moves
  have hsound : s.Sound { world with rows } :=
    ⟨hsame, hwrites.fits hnew.fits, hwrites.chaining_eq.trans hnew.settled⟩
  have hcounters := hwrites.everyCounter .bounded (State.everyCounter_initial .bounded hworld)
  have hencodable := State.encodable_of_fits hworld hsound.fits hcounters
  refine ⟨load_save hworld hsound hencodable hsame, fun t ht => ?_⟩
  rw [loadBytes_toUTF8]
  exact ⟨load_save hworld hsound hencodable ht, load_save hworld hsound hencodable ht⟩

/-- A game in a small world is saved after its opening and a turn, and loaded by a new game. -/
theorem load_save_after_cell :
    let world := { cell with rows := [⟨0, #v[140, 0, 0, 0, 0], #v[8100, 0]⟩] }
    let s := (new world {} (Dice.ofSeed 7)).after [.start, .turn "LOOK"]
    let t := new world { lamp := 0 } (Dice.ofSeed 8)
    World.read cellText = .ok cell ∧ t.world = world ∧ s.load s.save = .ok s ∧
      t.load s.save = .ok { t with state := s.state } := by
  intro world s t
  obtain ⟨hself, hothers⟩ := load_save_after read_cell [⟨0, #v[140, 0, 0, 0, 0], #v[8100, 0]⟩] {}
    (Dice.ofSeed 7) [.start, .turn "LOOK"]
  exact ⟨read_cell, rfl, hself, (hothers t rfl).1⟩

end Session

end TextAdventure
