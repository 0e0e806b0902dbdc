import TextAdventure.Proofs.PassInvariants
import TextAdventure.Proofs.RowReferences

/-!
# Sessions that have stopped

A game that has stopped stays so, whatever is done with its session: no operation takes the mark
away.  A line of the player then changes nothing and is answered by the reason alone, and a saved
game replaces the state and nothing else.  An opening is different, because it does not look at the
mark.  It plays the automatic rows as in a game that goes on, draws percentages for them, and
describes the room.

Main results:

- Theorem `start_withHalted`: the mark makes no difference to an opening.
- Theorem `events_start`: no opening is silent.
- Theorem `halted_afterAll`: what can still happen once a game has stopped.
- Theorem `not_silent_after_halt`: an opening plays on in a game that has stopped.
-/

namespace TextAdventure

/-- There is one reason to stop, so that a game that stops again stops for the same one. -/
theorem Halt.eq (a b : Halt) : a = b := by
  cases a
  cases b
  rfl

/-- The report on a room is not empty. -/
theorem Narration.describeRoom_ne_nil (world : World) (s : State) (lamp : Nat) :
    describeRoom world s lamp ≠ [] := by
  unfold describeRoom
  split_ifs
  · simp
  · split <;> simp [litRoom]

namespace Progress

/-- A look adds to what has been printed. -/
theorem events_flushLook (p : Progress) (ctx : Context) :
    p.output.events <+: (p.flushLook ctx).output.events := by
  unfold flushLook
  split_ifs
  · exact List.prefix_append _ _
  · exact List.prefix_rfl

/-- A look that is pending prints something. -/
theorem events_flushLook_ne_nil {p : Progress} (h : p.output.lookPending = true) (ctx : Context) :
    (p.flushLook ctx).output.events ≠ [] := by
  simp [flushLook, h, lines, note, Narration.describeRoom_ne_nil]

/-- A look does not stop the game. -/
theorem isHalted_flushLook (p : Progress) (ctx : Context) :
    (p.flushLook ctx).isHalted = p.isHalted := by
  unfold flushLook
  split_ifs
  · rfl
  · rfl

end Progress

namespace Session

variable {s : Session} {reason : Halt}

/-! ## Openings -/

/-- The session with another mark of whether the game has stopped. -/
def withHalted (s : Session) (mark : Option Halt) : Session :=
  { s with halted := mark }

/-- The mark makes no difference to an opening: the session goes on as it would without the mark,
and keeps the mark. -/
theorem start_withHalted (s : Session) (mark : Option Halt) :
    (s.withHalted mark).start =
      (s.start.1.withHalted (s.start.2.halted.or mark), s.start.2) := by
  have hphase : (s.withHalted mark).automaticPhase (s.withHalted mark).opening =
      s.automaticPhase s.opening := rfl
  unfold start
  rw [hphase]
  dsimp only
  split_ifs
  · rfl
  · rfl

/-- An opening of a game that has stopped plays on as if the game had not stopped. -/
theorem start_of_halted (h : s.halted = some reason) :
    s.start =
      ((s.withHalted none).start.1.withHalted (some reason), (s.withHalted none).start.2) := by
  have hself : s = (s.withHalted none).withHalted (some reason) := by
    rw [← h]
    rfl
  have hmark : (s.withHalted none).start.2.halted.or (some reason) = some reason := by
    cases (s.withHalted none).start.2.halted with
    | none => rfl
    | some found => exact congrArg some (Halt.eq found reason)
  conv_lhs => rw [hself, start_withHalted, hmark]

/-- No opening is silent: the room is described, or the game has stopped and says so. -/
theorem events_start (s : Session) : s.start.2.events ≠ [] := by
  have hpass : (automaticPass s.context .idle s.opening).2.progress.Told :=
    (Progress.invariant_told s.context).automaticPass .idle (by rintro ⟨⟩)
  unfold start
  dsimp only
  split_ifs with hhalted
  · -- There is no look, but the command that stopped the game has printed a line.
    have hbefore : (automaticPass s.context .idle s.opening).2.progress.isHalted = true := by
      rw [← Progress.isHalted_flushLook _ s.context]
      exact hhalted
    intro hsilent
    have hlook := Progress.events_flushLook (s.automaticPhase s.opening).progress s.context
    have hphase := Progress.events_flushLook
      (automaticPass s.context .idle s.opening).2.progress s.context
    exact hpass hbefore (List.prefix_nil.1 (hsilent ▸ hphase.trans hlook))
  · exact Progress.events_flushLook_ne_nil rfl s.context

/-! ## Runs -/

/-- Without an opening, a game that has stopped changes with a saved game alone. -/
theorem resumes_perform_of_halted (h : s.halted = some reason) {operation : Operation}
    (hstart : operation ≠ .move .start) : s.Resumes (s.perform operation) := by
  by_cases hmove : ∃ m, operation = .move m
  · obtain ⟨m, rfl⟩ := hmove
    cases m with
    | start => contradiction
    | turn input =>
      show s.Resumes (s.turn input).1
      rw [turn_of_halted h]
      exact .refl s
  · exact s.resumes_perform (not_exists.1 hmove)

/-- No operation takes the mark of a game that has stopped away. -/
theorem halted_perform (h : s.halted = some reason) (operation : Operation) :
    (s.perform operation).halted = some reason := by
  by_cases hstart : operation = .move .start
  · rw [hstart, perform, move, start_of_halted h]
    rfl
  · have hresumes : s.Resumes (s.perform operation) := resumes_perform_of_halted h hstart
    rw [hresumes]
    exact h

/-- Without an opening, a run of a game that has stopped changes the state alone. -/
theorem resumes_afterAll_of_halted (h : s.halted = some reason) {operations : List Operation}
    (hstart : .move .start ∉ operations) : s.Resumes (s.afterAll operations) := by
  induction operations generalizing s with
  | nil => exact .refl s
  | cons operation operations ih =>
    rw [List.mem_cons, not_or] at hstart
    obtain ⟨hfirst, hrest⟩ := hstart
    have hnext := resumes_perform_of_halted h (Ne.symm hfirst)
    exact hnext.trans (ih (halted_perform h operation) hrest)

/-- The mark of a game that has stopped outlasts every run. -/
theorem halted_eq_afterAll (h : s.halted = some reason) (operations : List Operation) :
    (s.afterAll operations).halted = some reason := by
  induction operations generalizing s with
  | nil => exact h
  | cons operation operations ih => exact ih (halted_perform h operation)

/-- Take a game that has stopped, and a session of it after any operations at all.  The game has
still stopped, for the same reason.  A line of the player leaves the session as it is, prints
nothing and is answered by the reason.  Unless there was an opening among the operations, the
session differs by its state alone, which comes from a saved game.  An opening, however, goes on as
if the game had not stopped, and prints something each time. -/
theorem halted_afterAll (h : s.halted = some reason) (operations : List Operation) :
    let t := s.afterAll operations
    t.halted = some reason ∧
      (∀ input, t.turn input = (t, { halted := some reason })) ∧
      (.move .start ∉ operations → s.Resumes t) ∧
      t.start =
        ((t.withHalted none).start.1.withHalted (some reason), (t.withHalted none).start.2) ∧
      t.start.2.events ≠ [] := by
  intro t
  have hhalted : t.halted = some reason := halted_eq_afterAll h operations
  exact ⟨hhalted, turn_of_halted hhalted, resumes_afterAll_of_halted h, start_of_halted hhalted,
    events_start t⟩

/-! ## A game that stops at once -/

/-- A world whose automatic rows count the turns, and stop the game after the first one. -/
def clock : World :=
  { World.larder with
    rows := [⟨100, #v[20, 0, 0, 0, 0], #v[12300, 0]⟩, ⟨0, #v[39, 0, 0, 0, 0], #v[63, 0]⟩] }

theorem read_clock :
    World.read "0 1 1 1 1 5 1 0 3 10 1 0 100 20 0 0 0 0 12300 0 0 39 0 0 0 0 63 0
\"AUT\" \"ANY\" \"*TAK\" \"JAM\" 0 0 0 0 0 0 \"\" 0 0 0 0 0 0 \"larder\" \"\" \"Taken.\"
\"\" 0 \"jam/JAM/\" 1 \"\" \"\" 1 2 4" = .ok clock := by
  decide +kernel

/-- A game in this world has stopped after its opening.  It is opened again, goes on from a saved
state and gets a line from the player, and still its next opening describes the room. -/
theorem halted_afterAll_clock :
    let s := (new clock {} (Dice.ofSeed 0)).start.1
    let operations : List Operation :=
      [.move .start, .restore (State.initial clock), .move (.turn "LOOK")]
    let t := s.afterAll operations
    s.halted = some .gameOver ∧ t.halted = some .gameOver ∧
      t.turn "LOOK" = (t, { halted := some .gameOver }) ∧ t.start.2.events ≠ [] := by
  intro s operations t
  have hhalted : s.halted = some .gameOver := by decide +kernel
  obtain ⟨hafter, hturn, -, -, hstart⟩ := halted_afterAll hhalted operations
  exact ⟨hhalted, hafter, hturn "LOOK", hstart⟩

/-- A game that has stopped is not silent.  In a small world that has been read, the opening stops
the game; a second opening prints the room, does not report that the game has stopped, counts on
and draws a percentage. -/
theorem not_silent_after_halt :
    ¬∀ text world, World.read text = .ok world → ∀ (settings : Settings) (dice : Dice) (s : Session)
      (reason : Halt), s = (new world settings dice).start.1 → s.halted = some reason →
        s.start.2.events = [] ∨ s.start.2.halted = some reason ∨ s.start.1.state = s.state ∨
          s.start.1.dice = s.dice := by
  intro h
  let s := (new clock {} (Dice.ofSeed 0)).start.1
  have hhalted : s.halted = some .gameOver := by decide +kernel
  have hplays : s.start.2.events ≠ [] ∧ s.start.2.halted ≠ some .gameOver ∧
      s.start.1.state ≠ s.state ∧ s.start.1.dice ≠ s.dice := by
    decide +kernel
  obtain ⟨hevents, hreport, hchange, hdraw⟩ := hplays
  rcases h _ clock read_clock {} (Dice.ofSeed 0) s .gameOver rfl hhalted with
    hsilent | hreports | hstate | hdice
  · exact hevents hsilent
  · exact hreport hreports
  · exact hchange hstate
  · exact hdraw hdice

end Session

end TextAdventure
