import TextAdventure.Proofs.StateBounds
import TextAdventure.Proofs.TurnWrites

/-!
# Runs of a session

A session goes through openings and turns, and in between it can go on from saved games.  A saved
game that is refused leaves the session as it was.  Whatever the order of these operations, the
state fits the world all the time, and no wish to be continued is left over.

Main results:

- Inductives `Move` and `Operation` with `Session.after` and `Session.afterAll`: runs of a session.
- Theorem `writes_after`: moves only write to the state.
- Theorem `resumes_perform`: saved games change the state alone.
- Theorem `fits_afterAll`: the state of every run in a world that has been read.
-/

namespace TextAdventure

/-! ## Moves -/

/-- What makes a game go on by itself: its opening, or a line of the player. -/
inductive Move where
  | start
  | turn (input : String)
deriving Repr, DecidableEq

namespace Session

/-- A move, with its output. -/
def move (s : Session) : Move → Session × Output
  | .start => s.start
  | .turn input => s.turn input

/-- The session after some moves. -/
def after (s : Session) (moves : List Move) : Session :=
  moves.foldl (fun s m => (s.move m).1) s

/-- An opening and a turn write to the state alike. -/
theorem plays_move {s : Session} (hworld : s.world.WellFormed) (m : Move) :
    s.Plays (s.move m) := by
  cases m with
  | start => exact plays_start hworld
  | turn input => exact plays_turn hworld input

/-- Moves write to the state of a session, and to nothing else of it that lasts. -/
theorem writes_after {s : Session} (hworld : s.world.WellFormed)
    (hsettled : s.state.chaining = false) (moves : List Move) :
    (s.after moves).world = s.world ∧ Writes s.world s.state (s.after moves).state := by
  induction moves generalizing s with
  | nil => exact ⟨rfl, .refl⟩
  | cons m moves ih =>
    have hplays := plays_move hworld m
    have hnext : (s.move m).1.world.WellFormed := by
      rw [hplays.world_eq]
      exact hworld
    obtain ⟨hsame, hwrites⟩ := ih hnext (hplays.chaining hsettled)
    rw [hplays.world_eq] at hsame hwrites
    exact ⟨hsame, (hplays.writes hsettled).trans hwrites⟩

end Session

/-! ## Operations -/

/-- What can be done with a session. -/
inductive Operation where
  | move (m : Move)
  /-- Go on from the text of a saved game. -/
  | load (text : String)
  /-- Go on from the bytes of a saved game. -/
  | loadBytes (bytes : ByteArray)
  /-- Go on from another state. -/
  | restore (state : State)

namespace Session

/-- The session that was asked for, or the same session where that is refused. -/
def accept (s : Session) : Except SaveError Session → Session
  | .ok t => t
  | .error _ => s

/-- The session after an operation. -/
def perform (s : Session) : Operation → Session
  | .move m => (s.move m).1
  | .load text => s.accept (s.load text)
  | .loadBytes bytes => s.accept (s.loadBytes bytes)
  | .restore st => s.accept (s.restore st)

/-- The session after some operations. -/
def afterAll (s : Session) (operations : List Operation) : Session :=
  operations.foldl perform s

/-! ## Saved games -/

/-- A saved game is only accepted when its state fits the world. -/
theorem restore_eq_ok_iff {s t : Session} {st : State} :
    s.restore st = .ok t ↔ st.Fits s.world ∧ t = { s with state := st.settled } := by
  rw [← misfit?_eq_none_iff]
  cases hmisfit : misfit? s.world st with
  | none =>
    rw [restore_eq_ok hmisfit, Except.ok.injEq]
    simp [eq_comm]
  | some e => simp [restore_eq_error hmisfit]

/-- What goes on from the text of a saved game goes on from a state. -/
theorem exists_restore_of_load {s t : Session} {text : String} (h : s.load text = .ok t) :
    ∃ st, s.restore st = .ok t := by
  obtain ⟨st, -, hrestore⟩ := exists_of_bind_eq_ok h
  exact ⟨st, hrestore⟩

/-- The same for the bytes of a saved game. -/
theorem exists_restore_of_loadBytes {s t : Session} {bytes : ByteArray}
    (h : s.loadBytes bytes = .ok t) : ∃ st, s.restore st = .ok t := by
  unfold loadBytes at h
  split at h
  · exact exists_restore_of_load h
  · cases h

/-- An operation that is not a move is refused, or goes on from another state. -/
theorem perform_eq_or_exists_restore (s : Session) {operation : Operation}
    (h : ∀ m, operation ≠ .move m) :
    s.perform operation = s ∨ ∃ st, s.restore st = .ok (s.perform operation) := by
  have haccept : ∀ result, (∀ t, result = .ok t → ∃ st, s.restore st = .ok t) →
      s.accept result = s ∨ ∃ st, s.restore st = .ok (s.accept result) := by
    intro result hresult
    cases result with
    | ok t => exact Or.inr (hresult t rfl)
    | error e => exact Or.inl rfl
  cases operation with
  | move m => exact absurd rfl (h m)
  | load text => exact haccept _ fun _ ht => exists_restore_of_load ht
  | loadBytes bytes => exact haccept _ fun _ ht => exists_restore_of_loadBytes ht
  | restore st => exact haccept _ fun _ ht => ⟨st, ht⟩

/-- The session goes on from another state, and is the same in all other respects. -/
def Resumes (s t : Session) : Prop :=
  t = { s with state := t.state }

theorem Resumes.refl (s : Session) : s.Resumes s := rfl

theorem Resumes.trans {s t u : Session} (hst : s.Resumes t) (htu : t.Resumes u) : s.Resumes u := by
  unfold Resumes at *
  rw [htu, hst]

/-- Saved games, accepted or refused, change the state alone. -/
theorem resumes_perform (s : Session) {operation : Operation} (h : ∀ m, operation ≠ .move m) :
    s.Resumes (s.perform operation) := by
  rcases s.perform_eq_or_exists_restore h with hrefused | ⟨st, hrestore⟩
  · rw [hrefused]
    exact .refl s
  · obtain ⟨-, hnext⟩ := restore_eq_ok_iff.1 hrestore
    rw [hnext]
    rfl

/-! ## Sound sessions -/

/-- The session is one in the given world, its state fits the world, and no wish to be continued is
left over. -/
structure Sound (world : World) (s : Session) : Prop where
  world_eq : s.world = world
  fits : s.state.Fits world
  settled : s.state.chaining = false

/-- A new game is sound. -/
theorem sound_new {world : World} (h : world.WellFormed) (settings : Settings) (dice : Dice) :
    (new world settings dice).Sound world :=
  ⟨rfl, State.fits_initial h, rfl⟩

namespace Sound

variable {world : World} {s t : Session}

theorem move (h : s.Sound world) (hworld : world.WellFormed) (m : Move) :
    (s.move m).1.Sound world := by
  obtain ⟨rfl, hfits, hsettled⟩ := h
  have hplays := plays_move hworld m
  exact ⟨hplays.world_eq, (hplays.writes hsettled).fits hfits, hplays.chaining hsettled⟩

theorem of_restore (h : s.Sound world) {st : State} (ht : s.restore st = .ok t) :
    t.Sound world := by
  obtain ⟨rfl, -, -⟩ := h
  obtain ⟨hfits, rfl⟩ := restore_eq_ok_iff.1 ht
  exact ⟨rfl, hfits.settled, rfl⟩

/-- Every operation keeps a session sound, whether or not it succeeds. -/
theorem perform (h : s.Sound world) (hworld : world.WellFormed) (operation : Operation) :
    (s.perform operation).Sound world := by
  by_cases hmove : ∃ m, operation = .move m
  · obtain ⟨m, rfl⟩ := hmove
    exact h.move hworld m
  · rcases s.perform_eq_or_exists_restore (not_exists.1 hmove) with hrefused | ⟨st, hrestore⟩
    · rw [hrefused]
      exact h
    · exact h.of_restore hrestore

/-- Every run of operations keeps a session sound. -/
theorem afterAll (h : s.Sound world) (hworld : world.WellFormed) (operations : List Operation) :
    (s.afterAll operations).Sound world := by
  induction operations generalizing s with
  | nil => exact h
  | cons operation operations ih => exact ih (h.perform hworld operation)

end Sound

/-! ## Runs in a world that has been read -/

/-- In a world that has been read, with its own action table or with any other rows, every run of
operations leaves a sound session. -/
theorem sound_of_read {text : String} {world : World} (hread : World.read text = .ok world)
    (rows : List Row) (settings : Settings) (dice : Dice) (operations : List Operation) :
    ((new { world with rows } settings dice).afterAll operations).Sound { world with rows } :=
  have hworld := (World.wellFormed_of_read hread).withRows rows
  (sound_new hworld settings dice).afterAll hworld operations

/-- In a world that has been read, with its own action table or with any other rows, the state fits
the world after any operations at all, whether or not they succeed: the room and the alternate rooms
are rooms of the world, each item has one location, which is the inventory, the storeroom or a room,
and no wish to be continued is left over. -/
theorem fits_afterAll {text : String} {world : World} (hread : World.read text = .ok world)
    (rows : List Row) (settings : Settings) (dice : Dice) (operations : List Operation) :
    ((new { world with rows } settings dice).afterAll operations).state.Fits { world with rows } ∧
      ((new { world with rows } settings dice).afterAll operations).state.chaining = false := by
  have hworld := (World.wellFormed_of_read hread).withRows rows
  have hrun := (sound_new hworld settings dice).afterAll hworld operations
  exact ⟨hrun.fits, hrun.settled⟩

/-- A world of two rooms and a lamp, as data.  Its row exchanges the room with alternate room 0 and
asks to be continued. -/
def cellText : String :=
  "0 0 0 0 1 5 1 0 3 10 0 0
0 0 0 0 0 0 12073 0
\"AUT\" \"ANY\"
0 0 0 0 0 0 \"\" 1 0 0 0 0 0 \"cell\"
\"Hi.\" \"lamp\" 1 \"\" 1 2 1"

/-- The world that this data describes. -/
@[irreducible]
def cell : World :=
  (World.read cellText).toOption.getD default

theorem read_cell : World.read cellText = .ok cell := by
  unfold cell
  exact eq_ok_of_isSome (by decide +kernel)

/-- A run in this world, with a row that goes to a room that does not exist in place of its own. -/
theorem fits_afterAll_cell :
    let rows : List Row := [⟨0, #v[140, 0, 0, 0, 0], #v[8100, 0]⟩]
    let operations : List Operation :=
      [.move .start, .move (.turn "LOOK"), .load "adventure:3", .restore State.blank]
    let s := (new { cell with rows } {} (Dice.ofSeed 7)).afterAll operations
    World.read cellText = .ok cell ∧ s.state.Fits { cell with rows } ∧
      s.state.chaining = false := by
  intro rows operations s
  exact ⟨read_cell, fits_afterAll read_cell rows {} (Dice.ofSeed 7) operations⟩

end Session

end TextAdventure
