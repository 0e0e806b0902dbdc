import TextAdventure.Proofs.HaltedSessions

/-!
# What the player sees of the room

A player who has been moved is shown the room.  Whatever moves the player, be it an exit, a fall, a
command or an exchange of rooms, asks for a look, and the look stays pending until the room is
described.  This is done behind the player's part of a turn, behind the automatic pass and at the
end, so that nobody stays in a room that was not described.

Main results:

- Definition `Progress.StaysOrLooks`: a player is in a room, or a look is pending.
- Theorem `Progress.invariant_staysOrLooks`: passes over the action table keep this.
- Definition `Session.Shows`: a room is described.
- Theorem `Session.shows_room_of_moved`: a turn or an opening that moves the player describes the
  room.
-/

namespace TextAdventure

/-! ## Pending looks -/

/-- The player is in the given room, unless a look is pending. -/
def Progress.StaysOrLooks (room : Nat) (p : Progress) : Prop :=
  p.output.lookPending = true ∨ p.state.room = room

/-- A command that moves the player asks for a look. -/
theorem Command.staysOrLooks_apply (ctx : Context) (o : Operands) (c : Command) {room : Nat}
    {p : Progress} (h : p.StaysOrLooks room) : (c.apply ctx o p).StaysOrLooks room := by
  cases c with
  | goTo | die | showRoom | swapRoomZero | swapRoom => exact Or.inl rfl
  | message n =>
    simp only [apply]
    split <;> exact h
  | get | drop =>
    simp only [apply]
    split_ifs <;> exact h
  | swapItems =>
    simp only [apply, Progress.mapState, State.swapItems]
    split <;> exact h
  | putWith =>
    simp only [apply, Progress.mapState, State.putWith]
    split <;> exact h
  | swapCounter =>
    simp only [apply, Progress.mapState, State.swapCounter]
    split_ifs <;> exact h
  | _ => exact h

namespace Progress

/-- Passes over the action table ask for a look where they move the player. -/
theorem invariant_staysOrLooks (ctx : Context) (room : Nat) :
    Invariant ctx (StaysOrLooks room) where
  note _ _ h := h
  settle _ h := h
  execute c o p h := Command.execute_cases ctx c o p h fun _ => Command.staysOrLooks_apply ctx o c h

/-- Nothing that has been printed is taken back. -/
theorem invariant_printed (ctx : Context) (events : List Event) :
    Invariant ctx fun p => events <+: p.output.events where
  note _ _ h := h
  settle _ h := h
  execute c o p h :=
    Command.execute_cases ctx c o p h fun _ => h.trans (Command.events_apply ctx o p c)

/-- Light does not move the player. -/
theorem staysOrLooks_burn {room : Nat} {p : Progress} (h : p.StaysOrLooks room)
    (settings : Settings) : (p.burn settings).StaysOrLooks room := by
  unfold burn lightRunsOut lightBurns
  dsimp only
  split_ifs <;> exact h

/-- Light adds to what has been printed. -/
theorem events_burn (p : Progress) (settings : Settings) :
    p.output.events <+: (p.burn settings).output.events := by
  unfold burn lightRunsOut lightBurns
  dsimp only
  split_ifs
  · exact List.prefix_append _ _
  · exact List.prefix_append _ _
  · exact List.prefix_append _ _
  · exact List.prefix_rfl
  · exact List.prefix_rfl

/-- After a look the player is in the room that was described. -/
theorem staysOrLooks_flushLook (p : Progress) (ctx : Context) :
    (p.flushLook ctx).StaysOrLooks p.state.room :=
  Or.inr (congrArg State.room (p.state_flushLook ctx))

/-- A look that is pending describes the room. -/
theorem describeRoom_flushLook {p : Progress} (h : p.output.lookPending = true) (ctx : Context) :
    (Narration.describeRoom ctx.world p.state ctx.settings.lamp).map .line <:+
      (p.flushLook ctx).output.events := by
  rw [flushLook, if_pos h]
  exact List.suffix_append _ _

end Progress

/-! ## Built-in orders -/

namespace Builtin

variable (ctx : Context) {room : Nat} {p : Progress}

theorem staysOrLooks_answer (h : p.StaysOrLooks room) (input : String) :
    (answer ctx input p).StaysOrLooks room := by
  unfold answer
  dsimp only
  split_ifs
  · exact h
  · exact Or.inl rfl
  · exact h
  · exact h

theorem staysOrLooks_get (h : p.StaysOrLooks room) (noun : String) :
    (get ctx noun p).StaysOrLooks room := by
  unfold get
  split
  · exact h
  · split_ifs <;> exact h

theorem staysOrLooks_drop (h : p.StaysOrLooks room) (noun : String) :
    (drop ctx noun p).StaysOrLooks room := by
  unfold drop
  split <;> exact h

theorem staysOrLooks_walk (h : p.StaysOrLooks room) (d : Direction) :
    (walk ctx d p).StaysOrLooks room := by
  unfold walk
  split
  · exact h
  · exact h
  · exact Or.inl rfl

/-- A move asks for a look, whether it takes an exit or ends in a fall. -/
theorem staysOrLooks_go {pass : Pass} (h : pass.progress.StaysOrLooks room) (d : Direction) :
    (go ctx d pass).progress.StaysOrLooks room := by
  unfold go
  dsimp only
  split_ifs
  · exact Or.inl rfl
  · exact staysOrLooks_walk ctx (p := pass.progress.note _) h d
  · exact staysOrLooks_walk ctx h d

end Builtin

/-! ## Turns -/

namespace Session

variable {s : Session} {room : Nat}

theorem keptByAnswers_staysOrLooks (s : Session) (room : Nat) :
    s.KeptByAnswers (Progress.StaysOrLooks room) where
  notYet h := h
  answer input _ h := Builtin.staysOrLooks_answer s.context h input
  get noun _ h := Builtin.staysOrLooks_get s.context h noun
  drop noun _ h := Builtin.staysOrLooks_drop s.context h noun

/-- Whatever the player's line does, it asks for a look where it moves the player. -/
theorem staysOrLooks_playerPhase {pass : Pass} (h : pass.progress.StaysOrLooks room)
    (input : String) : (s.playerPhase input pass).progress.StaysOrLooks room := by
  refine (s.keptByAnswers_staysOrLooks room).playerPhase input h (fun order => ?_) fun d => ?_
  · exact (Progress.invariant_staysOrLooks (s.contextOf order) room).playerPass _ _ _ h
  · exact Builtin.staysOrLooks_go s.context h d

/-- The lines that describe the room in a state stand one after the other among the events. -/
def Shows (s : Session) (st : State) (events : List Event) : Prop :=
  (Narration.describeRoom s.world st s.settings.lamp).map .line <:+: events

theorem Shows.mono {st : State} {events more : List Event} (h : s.Shows st events)
    (hmore : events <+: more) : s.Shows st more :=
  List.IsInfix.trans h hmore.isInfix

/-- A player who is not in the room any more is shown where they are. -/
theorem shows_of_staysOrLooks {p : Progress} (h : p.StaysOrLooks room)
    (hmoved : p.state.room ≠ room) : s.Shows p.state (p.flushLook s.context).output.events :=
  (Progress.describeRoom_flushLook (h.resolve_right hmoved) s.context).isInfix

theorem state_finish (s : Session) (pass : Pass) : (s.finish pass).1.state = pass.progress.state :=
  pass.progress.state_flushLook s.context

theorem events_finish (s : Session) (pass : Pass) :
    pass.progress.output.events <+: (s.finish pass).2.events :=
  pass.progress.events_flushLook s.context

theorem halted_finish (s : Session) (pass : Pass) :
    (s.finish pass).2.isHalted = pass.progress.isHalted :=
  pass.progress.isHalted_flushLook s.context

/-- The automatic pass shows the player where they are, if it moves them out of the room. -/
theorem shows_automaticPhase {pass : Pass} (h : pass.progress.StaysOrLooks room)
    (hmoved : (s.automaticPhase pass).progress.state.room ≠ room) :
    s.Shows (s.automaticPhase pass).progress.state
      (s.automaticPhase pass).progress.output.events := by
  have hpass := (Progress.invariant_staysOrLooks s.context room).automaticPass .idle h
  have hstate : (s.automaticPhase pass).progress.state =
      (automaticPass s.context .idle pass).2.progress.state := Progress.state_flushLook _ s.context
  rw [hstate] at hmoved ⊢
  exact shows_of_staysOrLooks hpass hmoved

theorem events_automaticPhase (s : Session) (pass : Pass) :
    pass.progress.output.events <+: (s.automaticPhase pass).progress.output.events :=
  ((Progress.invariant_printed s.context pass.progress.output.events).automaticPass .idle
    List.prefix_rfl).trans (Progress.events_flushLook _ s.context)

/-- A turn that moves the player describes the room where the player ends up, as it is behind the
player's part of the turn or at the end. -/
theorem shows_turn (s : Session) (input : String)
    (hmoved : (s.turn input).1.state.room ≠ s.state.room) :
    ∃ st, (st = (s.playerPhase input s.opening).progress.state ∨ st = (s.turn input).1.state) ∧
      st.room = (s.turn input).1.state.room ∧ s.Shows st (s.turn input).2.events := by
  cases hhalted : s.halted with
  | some reason =>
    rw [turn_of_halted hhalted] at hmoved
    contradiction
  | none =>
    rw [turn_of_not_halted hhalted] at hmoved ⊢
    have hplayer : (s.playerPhase input s.opening).progress.StaysOrLooks s.state.room :=
      staysOrLooks_playerPhase (Or.inr rfl) input
    unfold play at hmoved ⊢
    generalize s.playerPhase input s.opening = player at hplayer hmoved ⊢
    have hseen : (player.flushLook s.context).progress.state = player.progress.state :=
      player.progress.state_flushLook s.context
    dsimp only at hmoved ⊢
    split_ifs at hmoved ⊢
    · rw [state_finish, hseen] at hmoved ⊢
      exact ⟨_, Or.inl rfl, rfl,
        (shows_of_staysOrLooks hplayer hmoved).mono (events_finish s (player.flushLook s.context))⟩
    · rw [state_finish] at hmoved ⊢
      have hburned := Progress.staysOrLooks_burn
        (player.progress.staysOrLooks_flushLook s.context) s.settings
      by_cases hroom : (s.worldPhase (player.flushLook s.context)).progress.state.room =
          player.progress.state.room
      · -- The automatic pass ends in the room where the player's part of the turn ended.
        have hshown : s.Shows player.progress.state
            (player.flushLook s.context).progress.output.events :=
          shows_of_staysOrLooks hplayer (hroom ▸ hmoved)
        have hlater := (Progress.events_burn (player.progress.flushLook s.context) s.settings).trans
          (events_automaticPhase s ⟨_, player.dice⟩)
        exact ⟨_, Or.inl rfl, hroom.symm, (hshown.mono hlater).mono (events_finish s _)⟩
      · exact ⟨_, Or.inr rfl, rfl, (shows_automaticPhase hburned hroom).mono (events_finish s _)⟩

/-- An opening describes the room where the player ends up, unless it stops the game without having
moved the player. -/
theorem shows_start (s : Session)
    (h : s.start.2.halted = none ∨ s.start.1.state.room ≠ s.state.room) :
    s.Shows s.start.1.state s.start.2.events := by
  have hopening : s.opening.progress.StaysOrLooks s.state.room := Or.inr rfl
  unfold start at h ⊢
  dsimp only at h ⊢
  split_ifs at h ⊢ with hhalted
  · rw [state_finish] at h ⊢
    have hmoved := h.resolve_left fun hnone => by
      have hgoes := halted_finish s (s.automaticPhase s.opening)
      rw [hhalted, Output.isHalted, hnone] at hgoes
      cases hgoes
    exact (shows_automaticPhase hopening hmoved).mono (events_finish s _)
  · rw [state_finish]
    exact (Progress.describeRoom_flushLook rfl s.context).isInfix

/-- The player always sees where they end up. -/
theorem shows_room_of_moved (s : Session) (input : String) :
    ((s.turn input).2.lookPending = false ∧ s.start.2.lookPending = false) ∧
      ((s.turn input).1.state.room ≠ s.state.room →
        ∃ st, (st = (s.playerPhase input s.opening).progress.state ∨
            st = (s.turn input).1.state) ∧
          st.room = (s.turn input).1.state.room ∧ s.Shows st (s.turn input).2.events) ∧
      (s.start.2.halted = none ∨ s.start.1.state.room ≠ s.state.room →
        s.Shows s.start.1.state s.start.2.events) := by
  refine ⟨⟨?_, ?_⟩, shows_turn s input, shows_start s⟩
  · cases hhalted : s.halted with
    | some reason => rw [turn_of_halted hhalted]
    | none =>
      rw [turn_of_not_halted hhalted]
      unfold play
      dsimp only
      split_ifs <;> exact lookPending_finish s _
  · unfold start
    dsimp only
    split_ifs <;> exact lookPending_finish s _

/-- A world whose automatic row exchanges the room with alternate room 0. -/
def pendulum : World :=
  { World.larder with rows := [⟨100, .replicate 5 0, #v[12000, 0]⟩] }

/-- In this world an opening moves the player, and so does a turn; both show the other room. -/
theorem shows_room_of_moved_pendulum :
    let s := new pendulum {} (Dice.ofSeed 0)
    ((s.turn "LOOK").1.state.room = 0 ∧ s.start.1.state.room = 0 ∧ s.state.room = 1) ∧
      (∃ st : State, st.room = 0 ∧ s.Shows st (s.turn "LOOK").2.events) ∧
      s.Shows s.start.1.state s.start.2.events := by
  intro s
  have hrooms : (s.turn "LOOK").1.state.room = 0 ∧ s.start.1.state.room = 0 ∧ s.state.room = 1 := by
    decide +kernel
  obtain ⟨hturn, hstart, hbefore⟩ := hrooms
  obtain ⟨-, hturns, hstarts⟩ := shows_room_of_moved s "LOOK"
  obtain ⟨st, -, hroom, hshows⟩ := hturns (by rw [hturn, hbefore]; decide)
  exact ⟨⟨hturn, hstart, hbefore⟩, ⟨st, hroom.trans hturn, hshows⟩,
    hstarts (Or.inr (by rw [hstart, hbefore]; decide))⟩

end Session

end TextAdventure
