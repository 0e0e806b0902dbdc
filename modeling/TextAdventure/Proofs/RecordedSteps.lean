import TextAdventure.Proofs.SessionRuns

/-!
# The steps of a run

Openings and turns record the steps that they take, and going on from a saved game takes none.  The
steps of a run are those of its operations, one after the other.  What the operations keep, and what
holds of every step of an operation, is therefore settled for a run by looking at one operation.

Main results:

- Definition `Session.journal`: the steps of a run, in order.
- Theorems `Session.run_induction` and `Session.moves_induction`: what holds of a session and of the
  steps it takes, for any run and for a run of openings and turns.
- Theorem `Session.Sound.of_mem_journal`: each step of a run is called for by the action table, and
  it is taken in a state that fits the world.
- Definition `Session.Visits` with theorems `Session.visits_restore` and
  `Session.Sound.fits_of_visits`: the states that a run leads through.
-/

namespace TextAdventure.Session

/-- The steps that an operation takes. -/
def steps (s : Session) : Operation → List Entry
  | .move m => (s.move m).2.journal
  | .load _ | .loadBytes _ | .restore _ => []

/-- The steps of some operations, in order. -/
def journal (s : Session) : List Operation → List Entry
  | [] => []
  | operation :: operations => s.steps operation ++ (s.perform operation).journal operations

/-- Some operations lead through a state: they end in it, or they take a step in it. -/
def Visits (s : Session) (operations : List Operation) (st : State) : Prop :=
  st = (s.afterAll operations).state ∨ ∃ entry ∈ s.journal operations, entry.state? = some st

/-- A session can go on from any state that fits its world. -/
theorem visits_restore {s : Session} {st : State} (hst : st.Fits s.world)
    (hsettled : st.chaining = false) : s.Visits [.restore st] st := by
  have hrestore : s.restore st = .ok { s with state := st.settled } :=
    restore_eq_ok_iff.2 ⟨hst, rfl⟩
  refine Or.inl ?_
  simp [afterAll, perform, accept, hrestore, State.settled_eq_self hsettled]

/-- Moves are operations. -/
theorem afterAll_map_move (s : Session) (moves : List Move) :
    s.afterAll (moves.map .move) = s.after moves := by
  unfold afterAll after
  rw [List.foldl_map]
  rfl

/-- What holds of a session before a run and is kept by every operation holds after the run, and
what holds of every step that such a session takes holds of every step of the run. -/
theorem run_induction {P : Session → Prop} {Q : Entry → Prop} (operations : List Operation)
    (hperform : ∀ s, P s → ∀ operation ∈ operations,
      P (s.perform operation) ∧ ∀ entry ∈ s.steps operation, Q entry)
    {s : Session} (hs : P s) :
    P (s.afterAll operations) ∧ ∀ entry ∈ s.journal operations, Q entry := by
  induction operations generalizing s with
  | nil => exact ⟨hs, by simp [journal]⟩
  | cons operation operations ih =>
    obtain ⟨hnext, hsteps⟩ := hperform s hs operation List.mem_cons_self
    have hrest := ih (fun t ht o ho => hperform t ht o (List.mem_cons_of_mem _ ho)) hnext
    refine ⟨hrest.1, ?_⟩
    intro entry hentry
    rcases List.mem_append.1 hentry with hfirst | hlater
    · exact hsteps entry hfirst
    · exact hrest.2 entry hlater

/-- What holds of a session before a run of openings and turns and is kept by each of them holds
after the run, and what holds of every step that they take holds of every step of the run. -/
theorem moves_induction {P : Session → Prop} {Q : Entry → Prop}
    (hmove : ∀ s, P s → ∀ m, P (s.move m).1 ∧ ∀ entry ∈ (s.move m).2.journal, Q entry)
    {s : Session} (hs : P s) (moves : List Move) :
    P (s.after moves) ∧ ∀ entry ∈ s.journal (moves.map .move), Q entry := by
  rw [← afterAll_map_move]
  refine run_induction _ ?_ hs
  intro t ht operation hoperation
  obtain ⟨m, -, rfl⟩ := List.mem_map.1 hoperation
  exact hmove t ht m

namespace Sound

variable {world : World} {s : Session}

/-- Each step of a sound session is called for by the action table, and it is taken in a state that
fits the world. -/
theorem of_mem_steps (h : s.Sound world) (hworld : world.WellFormed) {operation : Operation}
    {entry : Entry} (hentry : entry ∈ s.steps operation) :
    entry.OfTable world ∧ ∀ st, entry.state? = some st → st.Fits world := by
  obtain ⟨rfl, hfits, -⟩ := h
  cases operation with
  | move m =>
    have hplays := plays_move hworld m
    refine ⟨hplays.ofTable hentry, fun st hst => ?_⟩
    exact (hplays.writes_of_mem_journal hentry hst).fits hfits.settled
  | load text => cases hentry
  | loadBytes bytes => cases hentry
  | restore st => cases hentry

/-- Each step of a run is called for by the action table, and it is taken in a state that fits the
world. -/
theorem of_mem_journal (h : s.Sound world) (hworld : world.WellFormed)
    {operations : List Operation} {entry : Entry} (hentry : entry ∈ s.journal operations) :
    entry.OfTable world ∧ ∀ st, entry.state? = some st → st.Fits world := by
  have hrun := run_induction (P := Sound world)
    (Q := fun e => e.OfTable world ∧ ∀ st, e.state? = some st → st.Fits world) operations
    (fun t ht operation _ => ⟨ht.perform hworld operation, fun e he => ht.of_mem_steps hworld he⟩) h
  exact hrun.2 entry hentry

/-- Every state that a run leads through fits the world. -/
theorem fits_of_visits (h : s.Sound world) (hworld : world.WellFormed)
    {operations : List Operation} {st : State} (hst : s.Visits operations st) : st.Fits world := by
  rcases hst with rfl | ⟨entry, hentry, hstate⟩
  · exact (h.afterAll hworld operations).fits
  · exact (h.of_mem_journal hworld hentry).2 st hstate

end Sound

end TextAdventure.Session
