import TextAdventure.Proofs.Lockstep
import TextAdventure.Proofs.PlainScan
import TextAdventure.Proofs.RoomViews

/-!
# Draws of a turn

How many percentages a turn draws does not depend on what happens in it.  The automatic pass draws
one for every row without a verb that has a noun, before the conditions of the row are tested, and
chains take up no such row.  Apart from the pass, only a move in the dark draws, and it draws one.
Two games in the same world that have the same dice therefore have the same dice after a turn, as
long as neither stops and neither player moves in the dark.

Main results:

- Definition `Dice.draws`: the next so many percentages.
- Structure `Pass.Draws`: how many percentages are drawn between two points of a turn.
- Theorem `Pass.draws_automaticPass`: the automatic pass draws one for every gated row.
- Theorem `Session.draws_turn`: so does a turn, with one more for a move in the dark.
-/

namespace TextAdventure

/-! ## Counting draws -/

/-- The next so many percentages, and the dice after them. -/
def Dice.draws : Nat → Dice → List Nat × Dice
  | 0, dice => ([], dice)
  | n + 1, dice =>
    let (percents, rest) := draws n dice.percent.2
    (dice.percent.1 :: percents, rest)

/-- Percentages can be drawn in two goes. -/
theorem Dice.draws_add (m n : Nat) (dice : Dice) :
    dice.draws (m + n) =
      ((dice.draws m).1 ++ ((dice.draws m).2.draws n).1, ((dice.draws m).2.draws n).2) := by
  induction m generalizing dice with
  | zero => simp [draws]
  | succ m ih => simp [Nat.add_right_comm m 1 n, draws, ih]

/-- The percentages that the journal says were drawn, in order. -/
def Output.drawn (out : Output) : List Nat :=
  out.journal.filterMap fun
    | .drew percent => some percent
    | _ => none

/-- What was drawn depends on the journal alone. -/
theorem Output.drawn_congr {out out' : Output} (h : out'.journal = out.journal) :
    out'.drawn = out.drawn := by
  rw [drawn, drawn, h]

/-- The row is considered with a percentage: it has no verb, but it has a noun. -/
def Row.isGated (row : Row) : Bool :=
  row.trigger.isAutomatic && 0 < row.trigger.noun

/-- The number of rows that are considered with a percentage. -/
def World.gatedRows (world : World) : Nat :=
  world.rows.countP Row.isGated

/-- Between two points of a turn, the next so many percentages of the dice are drawn and no others,
and the journal records them in order. -/
structure Pass.Draws (n : Nat) (a b : Pass) : Prop where
  drawn_eq : b.progress.output.drawn = a.progress.output.drawn ++ (a.dice.draws n).1
  dice_eq : b.dice = (a.dice.draws n).2

namespace Pass

variable {m n : Nat} {a b c : Pass}

/-- Nothing is drawn. -/
theorem Draws.none (hdrawn : b.progress.output.drawn = a.progress.output.drawn)
    (hdice : b.dice = a.dice) : Draws 0 a b :=
  ⟨by simp [hdrawn, Dice.draws], hdice⟩

/-- Draws add up. -/
theorem Draws.trans (h : Draws m a b) (h' : Draws n b c) : Draws (m + n) a c where
  drawn_eq := by rw [h'.drawn_eq, h.drawn_eq, h.dice_eq, Dice.draws_add, List.append_assoc]
  dice_eq := by rw [h'.dice_eq, h.dice_eq, Dice.draws_add]

/-- What draws nothing can follow. -/
theorem Draws.then_none (h : Draws n a b) (h' : Draws 0 b c) : Draws n a c :=
  h.trans h'

theorem draws_draw (pass : Pass) : Draws 1 pass pass.draw.2 where
  drawn_eq := by simp [draw, Output.drawn, Dice.draws, Progress.note, Progress.mapOutput]
  dice_eq := rfl

end Pass

/-! ## The automatic pass -/

/-- The table draws nothing beside the gates of its rows. -/
theorem Progress.kept_drawn (ctx : Context) (percents : List Nat) :
    Kept ctx fun p => p.output.drawn = percents where
  settle h := h
  tested _ h := by simpa [Output.drawn, noteTested, note, mapOutput] using h
  ran _ h := by simpa [Output.drawn, note, mapOutput] using h
  executed _ _ h := by
    simpa [Output.drawn, Command.journal_execute, note, mapOutput] using h

namespace Pass

variable (ctx : Context) (pass : Pass)

theorem draws_tryRow {row : NumberedRow} (hrow : row ∈ ctx.world.numberedRows) :
    Draws 0 pass (pass.tryRow ctx row) := by
  have hkept := Progress.kept_drawn ctx pass.progress.output.drawn
  have htested := hkept.tested hrow rfl
  refine Draws.none ?_ rfl
  unfold tryRow
  dsimp only
  split_ifs
  · exact hkept.runRow hrow htested
  · exact htested

/-- Dealing with a row draws a percentage exactly when the row is gated, whether or not it runs. -/
theorem draws_plainStep {row : NumberedRow} (hrow : row ∈ ctx.world.numberedRows) :
    Draws row.1.isGated.toNat pass (pass.plainStep ctx row) := by
  by_cases hverb : row.1.trigger.verb = 0
  · by_cases hnoun : row.1.trigger.noun = 0
    · have hfree : row.1.isGated = false := by simp [Row.isGated, hnoun]
      simpa [plainStep, hverb, hnoun, hfree] using draws_tryRow ctx pass hrow
    · have hgated : row.1.isGated = true := by
        simpa [Row.isGated, Trigger.isAutomatic, hverb] using Nat.pos_of_ne_zero hnoun
      have hdraw := draws_draw pass
      simp only [plainStep, hverb, hnoun, hgated, if_false, ne_eq, not_true]
      split_ifs
      · exact hdraw.then_none (draws_tryRow ctx pass.draw.2 hrow)
      · exact hdraw
  · have hfree : row.1.isGated = false := by simp [Row.isGated, Trigger.isAutomatic, hverb]
    simp only [plainStep, hverb, hfree, if_true, ne_eq, not_false_eq_true]
    exact Draws.none rfl rfl

/-- A plain scan that does not stop the game draws one percentage for every gated row. -/
theorem draws_plainScan {rows : List NumberedRow} (hrows : rows ⊆ ctx.world.numberedRows)
    (hgoes : (plainScan ctx rows pass).progress.isHalted = false) :
    Draws (rows.countP fun row => row.1.isGated) pass (plainScan ctx rows pass) := by
  induction rows generalizing pass with
  | nil => exact Draws.none rfl rfl
  | cons row rest ih =>
    obtain ⟨hrow, hrest⟩ := List.cons_subset.1 hrows
    have hstep := draws_plainStep ctx pass hrow
    simp only [plainScan] at hgoes ⊢
    split_ifs at hgoes ⊢ with hhalt
    · simp [hhalt] at hgoes
    · have hcount : (row :: rest).countP (fun row => row.1.isGated) =
          row.1.isGated.toNat + rest.countP fun row => row.1.isGated := by
        cases hgated : row.1.isGated <;> simp [hgated, Nat.add_comm]
      rw [hcount]
      exact hstep.trans (ih _ hrest hgoes)

/-- An automatic pass that does not stop the game draws one percentage for every gated row,
whatever conditions hold and whatever chains run. -/
theorem draws_automaticPass (hbefore : pass.progress.isHalted = false)
    (hgoes : (automaticPass ctx .idle pass).2.progress.isHalted = false) :
    Draws ctx.world.gatedRows pass (automaticPass ctx .idle pass).2 := by
  have hscan := scanAutomatic_eq_plainScan ctx 0 ctx.world.numberedRows pass hbefore
  simp only [List.drop_zero] at hscan
  have hpass : (automaticPass ctx .idle pass).2 =
      (plainScan ctx ctx.world.numberedRows pass).settle := hscan
  have hcount : ctx.world.gatedRows =
      ctx.world.numberedRows.countP fun row => row.1.isGated := by
    have hrows : ctx.world.numberedRows.map Prod.fst = ctx.world.rows :=
      List.zipIdx_map_fst 0 ctx.world.rows
    rw [World.gatedRows, ← hrows, List.countP_map]
    rfl
  rw [hpass] at hgoes ⊢
  rw [hcount]
  have hdraws := draws_plainScan ctx pass (List.Subset.refl _) hgoes
  exact ⟨hdraws.drawn_eq, hdraws.dice_eq⟩

end Pass

/-! ## The rest of a turn -/

namespace Progress

/-- Burning light does not stop the game. -/
theorem isHalted_burn (p : Progress) (settings : Settings) :
    (p.burn settings).isHalted = p.isHalted := by
  unfold burn lightRunsOut lightBurns
  dsimp only
  split_ifs <;> rfl

theorem drawn_burn (p : Progress) (settings : Settings) :
    (p.burn settings).output.drawn = p.output.drawn := by
  unfold burn lightRunsOut lightBurns
  dsimp only
  split_ifs <;> simp [Output.drawn, line, note, mapOutput, Output.line, Output.emit]

theorem drawn_flushLook (p : Progress) (ctx : Context) :
    (p.flushLook ctx).output.drawn = p.output.drawn := by
  unfold flushLook
  dsimp only
  split_ifs
  · simp [Output.drawn, lines, note, mapOutput, Output.lines]
  · rfl

end Progress

namespace Builtin

/-- A move draws a percentage exactly when it is dark. -/
theorem draws_go (ctx : Context) (d : Direction) (pass : Pass) :
    Pass.Draws (pass.progress.state.isDark ctx.settings.lamp).toNat pass (go ctx d pass) := by
  have hdraw := pass.draws_draw
  have hwalk (q : Progress) : (walk ctx d q).output.drawn = q.output.drawn :=
    Output.drawn_congr (journal_walk ctx q d)
  unfold go
  cases pass.progress.state.isDark ctx.settings.lamp with
  | false => exact .none (hwalk pass.progress) rfl
  | true =>
    dsimp only
    rw [if_pos rfl]
    split_ifs
    · exact hdraw.then_none (.none rfl rfl)
    · exact hdraw.then_none (.none (hwalk pass.draw.2.progress) rfl)

end Builtin

namespace Session

variable (s : Session)

/-- The line orders a move, and it is dark. -/
def movesInDark (input : String) : Bool :=
  (Order.ofLine? s.world s.settings input).any fun order =>
    (order.direction? s.settings).isSome && s.state.isDark s.settings.lamp

/-- An order that is no move draws nothing. -/
theorem drawn_consult (order : Order) (input : String) (p : Progress) :
    (s.consult order input p).output.drawn = p.output.drawn := by
  have hkept := (Progress.kept_drawn (s.contextOf order) p.output.drawn).playerPass
    order.verb order.noun .idle rfl
  have hanswers : s.KeptByAnswers fun q => q.output.drawn = p.output.drawn :=
    s.keptByAnswers_of_journal fun hjournal h => (Output.drawn_congr hjournal).trans h
  exact hanswers.consult input hkept

/-- An order draws a percentage exactly when it is a move and it is dark. -/
theorem draws_obey (order : Order) (input : String) (pass : Pass) :
    Pass.Draws ((order.direction? s.settings).isSome &&
      pass.progress.state.isDark s.settings.lamp).toNat pass (s.obey order input pass) := by
  unfold obey
  cases order.direction? s.settings with
  | some d =>
    dsimp only
    rw [Option.isSome_some, Bool.true_and]
    exact Builtin.draws_go s.context d pass
  | none =>
    dsimp only
    rw [Option.isSome_none, Bool.false_and]
    exact .none (s.drawn_consult order input pass.progress) rfl

/-- The player's part of a turn draws a percentage exactly when it is a move in the dark. -/
theorem draws_playerPhase (input : String) :
    Pass.Draws (s.movesInDark input).toNat s.opening (s.playerPhase input s.opening) := by
  unfold playerPhase movesInDark
  cases Order.ofLine? s.world s.settings input with
  | some order => exact s.draws_obey order input s.opening
  | none =>
    refine .none ?_ rfl
    dsimp only
    exact Output.drawn_congr (Builtin.journal_answer s.context s.opening.progress input)

theorem draws_flushLook (pass : Pass) : Pass.Draws 0 pass (pass.flushLook s.context) :=
  .none (pass.progress.drawn_flushLook s.context) rfl

/-- The world's part of a turn draws one percentage for every gated row, unless it stops the
game. -/
theorem draws_worldPhase {pass : Pass} (hbefore : pass.progress.isHalted = false)
    (hgoes : (s.worldPhase pass).progress.isHalted = false) :
    Pass.Draws s.world.gatedRows pass (s.worldPhase pass) := by
  have hburnt : (pass.progress.burn s.settings).isHalted = false := by
    rw [Progress.isHalted_burn, hbefore]
  have hburn : Pass.Draws 0 pass { pass with progress := pass.progress.burn s.settings } :=
    .none (pass.progress.drawn_burn s.settings) rfl
  unfold worldPhase automaticPhase at hgoes ⊢
  have hpass := Pass.draws_automaticPass s.context _ hburnt
    ((Progress.isHalted_flushLook _ s.context).symm.trans hgoes)
  have hdraws := hburn.trans (hpass.then_none (s.draws_flushLook _))
  rwa [Nat.zero_add] at hdraws

/-- The end of a turn draws nothing. -/
theorem draws_finish {n : Nat} {pass : Pass} (h : Pass.Draws n s.opening pass) :
    ((s.finish pass).2.drawn, (s.finish pass).1.dice) = s.dice.draws n := by
  have hdraws := h.then_none (s.draws_flushLook pass)
  exact Prod.ext hdraws.drawn_eq hdraws.dice_eq

/-- A turn that leaves the game going draws one percentage for every gated row, and one more before
these if it is a move in the dark. -/
theorem draws_play (input : String) (hgoes : (s.play input).2.isHalted = false) :
    ((s.play input).2.drawn, (s.play input).1.dice) =
      s.dice.draws ((s.movesInDark input).toNat + s.world.gatedRows) := by
  have hplayer := (s.draws_playerPhase input).then_none (s.draws_flushLook _)
  unfold play at hgoes ⊢
  dsimp only at hgoes ⊢
  split_ifs at hgoes ⊢ with hhalt
  · rw [halted_finish, hhalt] at hgoes
    cases hgoes
  · rw [halted_finish] at hgoes
    exact s.draws_finish (hplayer.trans (s.draws_worldPhase (by simpa using hhalt) hgoes))

/-- The dice after a turn depend on the table, and not on play.  Take two games that go on, in the
same world and with the same dice, but in any two states and with any two lines of the player, and
suppose that neither turn stops its game.  Each turn draws one percentage for every gated row, and
one more if it is a move in the dark, and the journal records the percentages in order.  So if
neither turn is a move in the dark, the dice are the same afterwards, and if one of them is, its
dice are one percentage ahead. -/
theorem draws_turn {s t : Session} (hworld : t.world = s.world) (hdice : t.dice = s.dice)
    (hs : s.halted = none) (ht : t.halted = none) {input input' : String}
    (hgoes : (s.turn input).2.isHalted = false) (hgoes' : (t.turn input').2.isHalted = false) :
    ((s.turn input).2.drawn, (s.turn input).1.dice) =
        s.dice.draws ((s.movesInDark input).toNat + s.world.gatedRows) ∧
      (s.movesInDark input = false → t.movesInDark input' = false →
        (t.turn input').1.dice = (s.turn input).1.dice) ∧
      (s.movesInDark input = false → t.movesInDark input' = true →
        (t.turn input').1.dice = (s.turn input).1.dice.percent.2) := by
  rw [turn_of_not_halted hs] at hgoes ⊢
  rw [turn_of_not_halted ht] at hgoes' ⊢
  have hdraws := s.draws_play input hgoes
  have hdraws' := t.draws_play input' hgoes'
  rw [hworld, hdice] at hdraws'
  refine ⟨hdraws, fun hlight hlight' => ?_, fun hlight hdark => ?_⟩
  · rw [hlight] at hdraws
    rw [hlight'] at hdraws'
    exact congrArg Prod.snd (hdraws'.trans hdraws.symm)
  · rw [hlight, Bool.toNat_false, Nat.zero_add] at hdraws
    rw [hdark, Bool.toNat_true, Nat.add_comm, Dice.draws_add, ← hdraws] at hdraws'
    exact congrArg Prod.snd hdraws'

/-- A world with two gated rows.  The first always runs and asks to be continued by the row below
it, and the second runs one time in two; the last row has a verb. -/
def lottery : World :=
  { World.larder with
    rows := [⟨100, .replicate 5 0, #v[0, 73]⟩, ⟨0, .replicate 5 0, #v[0, 2]⟩,
      ⟨50, .replicate 5 0, #v[0, 1]⟩, ⟨153, .replicate 5 0, #v[0, 1]⟩] }

/-- In this world a look draws two percentages, and a move at night draws three. -/
theorem draws_turn_lottery :
    let s := new lottery {} (Dice.ofSeed 0)
    let t := { s with state := s.state.setFlag Flags.night true }
    (s.world.gatedRows = 2 ∧ s.movesInDark "LOOK" = false ∧ t.movesInDark "N" = true ∧
      (s.turn "LOOK").2.drawn.length = 2 ∧ (t.turn "N").2.drawn.length = 3) ∧
    ((s.turn "LOOK").2.drawn, (s.turn "LOOK").1.dice) = s.dice.draws 2 ∧
      (t.turn "N").1.dice = (s.turn "LOOK").1.dice.percent.2 := by
  intro s t
  have hgoes : (s.turn "LOOK").2.isHalted = false ∧ (t.turn "N").2.isHalted = false := by
    decide +kernel
  have hdark : s.movesInDark "LOOK" = false ∧ t.movesInDark "N" = true := by decide +kernel
  have hcounts : s.world.gatedRows = 2 ∧ (s.turn "LOOK").2.drawn.length = 2 ∧
      (t.turn "N").2.drawn.length = 3 := by
    decide +kernel
  obtain ⟨hlight, hdark⟩ := hdark
  obtain ⟨hrows, hdrawn, hdrawn'⟩ := hcounts
  obtain ⟨hturn, -, hahead⟩ := draws_turn (s := s) (t := t) rfl rfl rfl rfl hgoes.1 hgoes.2
  rw [hlight, hrows] at hturn
  exact ⟨⟨hrows, hlight, hdark, hdrawn, hdrawn'⟩, hturn, hahead hlight hdark⟩

end Session

end TextAdventure
