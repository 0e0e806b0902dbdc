import TextAdventure.Proofs.PassInvariants
import TextAdventure.Proofs.Writes

/-!
# What a turn writes

The built-in orders, the light and the descriptions of rooms write to the state within the same
bounds as the commands of the action table.  A turn as a whole is therefore a sequence of writes,
and it leaves the state settled: every pass over the action table ends settled, and nothing else
asks to be continued.

Main results:

- Theorems `Builtin.evolves_go`, `Builtin.evolves_get` and `Builtin.evolves_drop`: built-in orders.
- Theorem `Progress.evolves_burn`: a turn of light.
- Structure `Session.Plays` with theorems `plays_start` and `plays_turn`: the opening of a game and
  a turn write to the state, record their steps, and leave a settled state settled.
-/

namespace TextAdventure

/-! ## Built-in orders -/

namespace Builtin

variable (ctx : Context)

/-- An answer is printed, or the room is to be described. -/
theorem evolves_answer (input : String) (p : Progress) :
    p.Evolves ctx.world (answer ctx input p) := by
  unfold answer
  dsimp only
  split_ifs <;> exact .of_writes .refl rfl

theorem evolves_get (noun : String) (p : Progress) :
    p.Evolves ctx.world (get ctx noun p) := by
  unfold get
  split
  · exact .of_writes .refl rfl
  · split_ifs
    · exact .of_writes .refl rfl
    · exact .of_writes (.single (.place _ (by simp))) rfl

theorem evolves_drop (noun : String) (p : Progress) :
    p.Evolves ctx.world (drop ctx noun p) := by
  unfold drop
  split
  · exact .of_writes .refl rfl
  · exact .of_writes (.single (.putHere _)) rfl

/-- An exit leads to a room. -/
theorem evolves_walk {ctx : Context} (hworld : ctx.world.WellFormed) (d : Direction)
    (p : Progress) :
    p.Evolves ctx.world (walk ctx d p) := by
  unfold walk
  split
  · exact .of_writes .refl rfl
  · exact .of_writes .refl rfl
  · rename_i target hne hexit
    obtain ⟨room, hroom, rfl⟩ := Option.map_eq_some_iff.1 hexit
    have hle := hworld.exit_le room (List.mem_of_getElem? hroom) d
    exact .of_writes (.single (.enter hle)) rfl

/-- A fatal move ends in the last room. -/
theorem evolves_fall (p : Progress) : p.Evolves ctx.world (fall ctx p) :=
  .of_writes (.single (.enter (Nat.le_refl _))) rfl

theorem evolves_go {ctx : Context} (hworld : ctx.world.WellFormed) (d : Direction) (pass : Pass) :
    pass.progress.Evolves ctx.world (go ctx d pass).progress := by
  unfold go
  have hnote : pass.progress.Evolves ctx.world
      (pass.progress.note (.drew pass.dice.percent.1)) :=
    Progress.evolves_note trivial fun _ hs => by cases hs
  dsimp only
  split_ifs
  · exact hnote.trans (evolves_fall ctx _)
  · exact hnote.trans (evolves_walk hworld d _)
  · exact evolves_walk hworld d _

/-! ### The wish to be continued -/

@[simp]
theorem state_answer (input : String) (p : Progress) : (answer ctx input p).state = p.state := by
  unfold answer
  dsimp only
  split_ifs <;> rfl

@[simp]
theorem chaining_get (noun : String) (p : Progress) :
    (get ctx noun p).state.chaining = p.state.chaining := by
  unfold get
  split
  · rfl
  · split_ifs <;> rfl

@[simp]
theorem chaining_drop (noun : String) (p : Progress) :
    (drop ctx noun p).state.chaining = p.state.chaining := by
  unfold drop
  split <;> rfl

@[simp]
theorem chaining_walk (d : Direction) (p : Progress) :
    (walk ctx d p).state.chaining = p.state.chaining := by
  unfold walk
  split <;> rfl

@[simp]
theorem chaining_go (d : Direction) (pass : Pass) :
    (go ctx d pass).progress.state.chaining = pass.progress.state.chaining := by
  unfold go
  dsimp only
  split_ifs
  · rfl
  · exact chaining_walk ctx d _
  · exact chaining_walk ctx d _

end Builtin

/-! ## Light and looks -/

namespace Progress

variable {world : World}

/-- A turn of light never leaves less than none. -/
theorem evolves_burn (p : Progress) (settings : Settings) :
    p.Evolves world (p.burn settings) := by
  unfold burn
  split_ifs with hburns hout
  · have hflag : Write world p.state (p.state.setFlag Flags.lightOut true) := .setFlag _ _
    unfold lightRunsOut
    dsimp only
    split_ifs
    · exact .of_writes (Writes.settled
        ((Writes.single hflag).trans (.single (.place settings.lamp (by simp))))) rfl
    · exact .of_writes (Writes.single hflag).settled rfl
  · have hnote : p.Evolves world (p.note (.burned p.state.settled)) :=
      evolves_note trivial fun _ hs => (Option.some.inj hs).symm
    have hlight : Write world p.state (p.state.setLight (p.state.light - 1)) :=
      .setLight (by omega) (Or.inr (by omega))
    refine hnote.trans ?_
    unfold lightBurns
    dsimp only
    split_ifs
    · exact .of_writes (Writes.single hlight).settled rfl
    · exact .of_writes (Writes.single hlight).settled rfl
  · exact .refl

/-- A description of the room is printed. -/
theorem evolves_flushLook (p : Progress) (ctx : Context) : p.Evolves world (p.flushLook ctx) := by
  unfold flushLook
  split_ifs
  · have hnote : p.Evolves world (p.note (.looked p.state.settled)) :=
      evolves_note trivial fun _ hs => (Option.some.inj hs).symm
    exact hnote.trans (.of_writes .refl rfl)
  · exact .refl

@[simp]
theorem state_flushLook (p : Progress) (ctx : Context) : (p.flushLook ctx).state = p.state := by
  unfold flushLook
  split_ifs <;> rfl

end Progress

/-! ## Sessions -/

namespace Session

variable {s : Session}

/-- Answers write to the state. -/
theorem keptByAnswers_evolves (s : Session) (start : Progress) :
    s.KeptByAnswers (start.Evolves s.world) where
  notYet h := h.trans (.of_writes .refl rfl)
  answer input p h := h.trans (Builtin.evolves_answer s.context input p)
  get noun p h := h.trans (Builtin.evolves_get s.context noun p)
  drop noun p h := h.trans (Builtin.evolves_drop s.context noun p)

theorem evolves_playerPhase (hworld : s.world.WellFormed) (input : String) (pass : Pass) :
    pass.progress.Evolves s.world (s.playerPhase input pass).progress := by
  have hanswers := s.keptByAnswers_evolves pass.progress
  refine hanswers.playerPhase input .refl (fun order => ?_) fun d => ?_
  · have hctx : (s.contextOf order).world.WellFormed := hworld
    exact evolves_playerPass hctx order.verb order.noun .idle pass.progress
  · have hctx : s.context.world.WellFormed := hworld
    exact Builtin.evolves_go hctx d pass

theorem evolves_automaticPhase (hworld : s.world.WellFormed) (pass : Pass) :
    pass.progress.Evolves s.world (s.automaticPhase pass).progress := by
  have hctx : s.context.world.WellFormed := hworld
  exact (evolves_automaticPass hctx .idle pass).trans (Progress.evolves_flushLook _ _)

theorem evolves_worldPhase (hworld : s.world.WellFormed) (pass : Pass) :
    pass.progress.Evolves s.world (s.worldPhase pass).progress :=
  (Progress.evolves_burn pass.progress s.settings).trans
    (evolves_automaticPhase hworld ⟨_, pass.dice⟩)

/-! ### The wish to be continued -/

/-- No answer asks to be continued. -/
theorem keptByAnswers_chaining (s : Session) :
    s.KeptByAnswers fun p => p.state.chaining = false where
  notYet h := h
  answer input p h := by rwa [Builtin.state_answer]
  get noun p h := (Builtin.chaining_get s.context noun p).trans h
  drop noun p h := (Builtin.chaining_drop s.context noun p).trans h

/-- The player's part of a turn ends settled where it began so. -/
theorem chaining_playerPhase (input : String) {pass : Pass}
    (h : pass.progress.state.chaining = false) :
    (s.playerPhase input pass).progress.state.chaining = false :=
  s.keptByAnswers_chaining.playerPhase input h (fun _ => rfl)
    fun d => (Builtin.chaining_go s.context d pass).trans h

/-- The automatic pass ends settled. -/
theorem chaining_automaticPhase (pass : Pass) :
    (s.automaticPhase pass).progress.state.chaining = false := by
  unfold automaticPhase Pass.flushLook
  rw [Progress.state_flushLook]
  rfl

/-! ### Turns -/

/-- What an opening or a turn makes of a session: from the state to the new state there are only
writes, and the output records the steps on the way.  Where no wish to be continued was left over
before, none is left over afterwards. -/
structure Plays (s : Session) (result : Session × Output) : Prop where
  world_eq : result.1.world = s.world
  settings_eq : result.1.settings = s.settings
  evolves : s.opening.progress.Evolves s.world ⟨result.1.state, result.2⟩
  chaining : s.state.chaining = false → result.1.state.chaining = false

namespace Plays

variable {result : Session × Output}

/-- A settled state is written to as it is. -/
theorem writes (h : s.Plays result) (hsettled : s.state.chaining = false) :
    Writes s.world s.state result.1.state := by
  have hbefore : s.opening.progress.state.settled = s.state := State.settled_eq_self hsettled
  have hafter : result.1.state.settled = result.1.state :=
    State.settled_eq_self (h.chaining hsettled)
  have hwrites := h.evolves.writes
  rw [hbefore] at hwrites
  rw [← hafter]
  exact hwrites

/-- Each step was called for by the action table. -/
theorem ofTable (h : s.Plays result) {entry : Entry} (hentry : entry ∈ result.2.journal) :
    entry.OfTable s.world := by
  rcases h.evolves.journal entry hentry with hold | hnew
  · simp [opening] at hold
  · exact hnew.1

/-- Each step was taken in a state on the way. -/
theorem writes_of_mem_journal (h : s.Plays result) {entry : Entry}
    (hentry : entry ∈ result.2.journal) {st : State} (hst : entry.state? = some st) :
    Writes s.world s.state.settled st := by
  rcases h.evolves.journal entry hentry with hold | hnew
  · simp [opening] at hold
  · exact hnew.2 st hst

end Plays

/-- A pass is the rest of a turn. -/
theorem plays_finish {pass : Pass} (hpass : s.opening.progress.Evolves s.world pass.progress)
    (hend : s.state.chaining = false → pass.progress.state.chaining = false) :
    s.Plays (s.finish pass) := by
  refine ⟨rfl, rfl, hpass.trans (Progress.evolves_flushLook pass.progress s.context), ?_⟩
  intro hsettled
  have hstate : (s.finish pass).1.state = pass.progress.state :=
    Progress.state_flushLook pass.progress s.context
  rw [hstate]
  exact hend hsettled

/-- The opening of a game. -/
theorem plays_start (hworld : s.world.WellFormed) : s.Plays s.start := by
  have hpass := evolves_automaticPhase hworld s.opening
  have hend := s.chaining_automaticPhase s.opening
  unfold start
  dsimp only
  split_ifs
  · exact plays_finish hpass fun _ => hend
  · exact plays_finish (hpass.trans (.of_writes .refl rfl)) fun _ => hend

/-- A turn. -/
theorem plays_turn (hworld : s.world.WellFormed) (input : String) : s.Plays (s.turn input) := by
  cases hhalted : s.halted with
  | some reason =>
    rw [turn_of_halted hhalted]
    exact ⟨rfl, rfl, .of_writes .refl rfl, id⟩
  | none =>
    rw [turn_of_not_halted hhalted]
    have hplayer := (evolves_playerPhase hworld input s.opening).trans
      (Progress.evolves_flushLook _ s.context)
    unfold play
    dsimp only
    split_ifs
    · refine plays_finish hplayer fun hsettled => ?_
      rw [Pass.flushLook, Progress.state_flushLook]
      exact chaining_playerPhase input hsettled
    · have hworldPart := evolves_worldPhase hworld
        ((s.playerPhase input s.opening).flushLook s.context)
      exact plays_finish (hplayer.trans hworldPart) fun _ => s.chaining_automaticPhase _

end Session

end TextAdventure
