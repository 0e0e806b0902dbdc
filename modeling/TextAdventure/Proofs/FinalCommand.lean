import Mathlib.Logic.Relation
import TextAdventure.Proofs.Draws

/-!
# The command that stops the game comes last

A pass over the action table is a sequence of steps: it draws a percentage, tests a row, begins a
row, performs one of its commands, or takes back a wish to be continued.  Each step is taken while
the game goes on.  One command alone stops the game, so that no step can follow it: no command of
its row, no row of a chain, no row of the scan and no draw.  Once a pass has ended like this, no
further pass changes anything.

Main results:

- Inductive `Pass.Step`: the steps of a pass, each of which needs a game that goes on.
- Theorems `Pass.steps_plainScan` and `Pass.steps_scanPlayer`: the scans are sequences of steps.
- Theorem `Pass.exists_finish_of_isHalted`: steps that stop the game end with the command that
  stops it.
- Theorem `TableCall.finish_is_last`: how a pass ends, and what can follow it.
-/

namespace TextAdventure

/-- The entry records the command that stops the game. -/
def Entry.isFinish : Entry → Bool
  | executed c _ _ => c == .finish
  | _ => false

namespace Pass

/-! ## Steps -/

/-- One step of a pass over the action table.  It is taken while the game goes on. -/
inductive Step (ctx : Context) (a : Pass) : Pass → Prop where
  | draw (hgoes : a.progress.isHalted = false) : Step ctx a a.draw.2
  | settle (hgoes : a.progress.isHalted = false) : Step ctx a a.settle
  | test (hgoes : a.progress.isHalted = false) {row : NumberedRow}
      (hrow : row ∈ ctx.world.numberedRows) : Step ctx a ⟨a.progress.noteTested row, a.dice⟩
  | enter (hgoes : a.progress.isHalted = false) {row : NumberedRow}
      (hrow : row ∈ ctx.world.numberedRows) :
      Step ctx a ⟨a.progress.settle.note (.ran row.2 a.progress.state.settled), a.dice⟩
  | perform (hgoes : a.progress.isHalted = false) {row : NumberedRow} {c : Command} {o : Operands}
      (hrow : row ∈ ctx.world.numberedRows) (hcommand : (c, o) ∈ row.1.program) :
      Step ctx a ⟨a.progress.perform ctx c o, a.dice⟩

/-- Any number of steps, one after the other. -/
def Steps (ctx : Context) : Pass → Pass → Prop :=
  Relation.ReflTransGen (Step ctx)

variable {ctx : Context} {a b c : Pass}

theorem Steps.refl : Steps ctx a a :=
  Relation.ReflTransGen.refl

theorem Steps.trans (hab : Steps ctx a b) (hbc : Steps ctx b c) : Steps ctx a c :=
  Relation.ReflTransGen.trans hab hbc

theorem Steps.single (h : Step ctx a b) : Steps ctx a b :=
  Relation.ReflTransGen.single h

/-! ## Scans are sequences of steps -/

section Rows

variable {row : NumberedRow} {rows : List NumberedRow} {p : Progress} (dice : Dice)

theorem steps_executeAll (hrow : row ∈ ctx.world.numberedRows) {cs : List (Command × Operands)}
    (hcs : cs ⊆ row.1.program) (hgoes : p.isHalted = false) :
    Steps ctx ⟨p, dice⟩ ⟨Command.executeAll ctx cs p, dice⟩ := by
  induction cs generalizing p with
  | nil => exact .refl
  | cons entry rest ih =>
    obtain ⟨c, o⟩ := entry
    obtain ⟨hentry, hrest⟩ := List.cons_subset.1 hcs
    have hstep : Steps ctx ⟨p, dice⟩ ⟨p.perform ctx c o, dice⟩ :=
      .single (.perform hgoes hrow hentry)
    rw [Command.executeAll_cons]
    split_ifs with hhalt
    · exact hstep
    · exact hstep.trans (ih hrest (by simpa using hhalt))

theorem steps_runRow (hrow : row ∈ ctx.world.numberedRows) (hgoes : p.isHalted = false) :
    Steps ctx ⟨p, dice⟩ ⟨p.runRow ctx row, dice⟩ := by
  have henter : Steps ctx ⟨p, dice⟩ ⟨p.settle.note (.ran row.2 p.state.settled), dice⟩ :=
    .single (.enter hgoes hrow)
  exact henter.trans (steps_executeAll dice hrow (List.Subset.refl _) hgoes)

/-- A row is tested, and then it runs. -/
theorem steps_tested_runRow (hrow : row ∈ ctx.world.numberedRows) (hgoes : p.isHalted = false) :
    Steps ctx ⟨p, dice⟩ ⟨(p.noteTested row).runRow ctx row, dice⟩ :=
  (Steps.single (.test hgoes hrow)).trans (steps_runRow dice hrow hgoes)

theorem steps_chain (hrows : rows ⊆ ctx.world.numberedRows) (hgoes : p.isHalted = false) :
    Steps ctx ⟨p, dice⟩ ⟨(chain ctx rows p).1, dice⟩ := by
  induction rows generalizing p with
  | nil => exact .single (.settle hgoes)
  | cons row rest ih =>
    obtain ⟨hrow, hrest⟩ := List.cons_subset.1 hrows
    have htested : Steps ctx ⟨p, dice⟩ ⟨p.noteTested row, dice⟩ := .single (.test hgoes hrow)
    have hran := steps_tested_runRow dice hrow hgoes
    simp only [chain]
    split_ifs with hopen hadmits hhalt
    · exact hran
    · exact hran.trans (ih hrest (by simpa using hhalt))
    · exact htested.trans (ih hrest hgoes)
    · exact .single (.settle hgoes)

/-- The scan for the player's words takes steps, and none of them is a draw. -/
theorem steps_scanPlayer (verb noun : Nat) (sofar : Match) (hrows : rows ⊆ ctx.world.numberedRows)
    (hgoes : p.isHalted = false) :
    Steps ctx ⟨p, dice⟩ ⟨(scanPlayer ctx verb noun sofar rows p).2, dice⟩ := by
  induction rows generalizing sofar p with
  | nil => exact .refl
  | cons row rest ih =>
    obtain ⟨hrow, hrest⟩ := List.cons_subset.1 hrows
    have htested : Steps ctx ⟨p, dice⟩ ⟨p.noteTested row, dice⟩ := .single (.test hgoes hrow)
    have hran := steps_tested_runRow dice hrow hgoes
    simp only [scanPlayer]
    split_ifs with hanswers hadmits hchains
    · simp only [Bool.and_eq_true, Bool.not_eq_true'] at hchains
      exact hran.trans (steps_chain dice hrest hchains.1)
    · exact hran
    · exact htested.trans (ih .conditionsFailed hrest hgoes)
    · exact ih sofar hrest hgoes

end Rows

theorem steps_tryRow {row : NumberedRow} (hrow : row ∈ ctx.world.numberedRows)
    (hgoes : a.progress.isHalted = false) : Steps ctx a (a.tryRow ctx row) := by
  unfold tryRow
  dsimp only
  split_ifs
  · exact steps_tested_runRow a.dice hrow hgoes
  · exact .single (.test hgoes hrow)

theorem steps_plainStep {row : NumberedRow} (hrow : row ∈ ctx.world.numberedRows)
    (hgoes : a.progress.isHalted = false) : Steps ctx a (a.plainStep ctx row) := by
  have hdraw : Steps ctx a a.draw.2 := .single (.draw hgoes)
  unfold plainStep
  split_ifs
  · exact .refl
  · exact steps_tryRow hrow hgoes
  · exact hdraw.trans (steps_tryRow hrow hgoes)
  · exact hdraw

/-- The scan of the automatic rows takes steps. -/
theorem steps_plainScan {rows : List NumberedRow} (hrows : rows ⊆ ctx.world.numberedRows)
    (hgoes : a.progress.isHalted = false) : Steps ctx a (plainScan ctx rows a) := by
  induction rows generalizing a with
  | nil => exact .refl
  | cons row rest ih =>
    obtain ⟨hrow, hrest⟩ := List.cons_subset.1 hrows
    have hstep := steps_plainStep hrow hgoes
    simp only [plainScan]
    split_ifs with hhalt
    · exact hstep
    · exact hstep.trans (ih hrest (by simpa using hhalt))

/-! ## What steps record -/

/-- From one point of a pass to another the game goes on, and the command that stops it is not
executed. -/
structure GoesOn (a b : Pass) : Prop where
  isHalted_eq : b.progress.isHalted = false
  unfinished : ∃ later, b.progress.output.journal = a.progress.output.journal ++ later ∧
    ∀ entry ∈ later, entry.isFinish = false

theorem GoesOn.refl (hgoes : a.progress.isHalted = false) : GoesOn a a :=
  ⟨hgoes, [], by simp, by simp⟩

/-- The game goes on while one more entry is recorded. -/
theorem GoesOn.of_entry {entry : Entry} (hab : GoesOn a b)
    (hgoes : c.progress.isHalted = false)
    (hjournal : c.progress.output.journal = b.progress.output.journal ++ [entry])
    (hentry : entry.isFinish = false) : GoesOn a c := by
  obtain ⟨later, hlater, hunfinished⟩ := hab.unfinished
  refine ⟨hgoes, later ++ [entry], by rw [hjournal, hlater, List.append_assoc], ?_⟩
  intro e he
  rcases List.mem_append.1 he with he | he
  · exact hunfinished e he
  · rw [List.mem_singleton.1 he]
    exact hentry

end Pass

/-- A command that is performed is recorded. -/
theorem Progress.journal_perform (p : Progress) (ctx : Context) (c : Command) (o : Operands) :
    (p.perform ctx c o).output.journal =
      p.output.journal ++ [.executed c o p.state.settled] :=
  Command.journal_execute ctx c o _

/-- Any command but one leaves a game that goes on going on. -/
theorem Progress.isHalted_perform {p : Progress} {c : Command} (hc : c ≠ .finish) (ctx : Context)
    (o : Operands) : (p.perform ctx c o).isHalted = p.isHalted := by
  refine Command.execute_cases ctx c o (p.note (.executed c o p.state.settled))
    (motive := fun q => q.isHalted = p.isHalted) rfl fun _ => ?_
  simp only [isHalted, Output.isHalted, Command.halted_apply _ _ _ hc]
  rfl

/-- The command that stops the game names nothing, so that it is never skipped: it prints a line and
stops the game. -/
theorem Progress.perform_finish (p : Progress) (ctx : Context) (o : Operands) :
    p.perform ctx .finish o =
      ((p.note (.executed .finish o p.state.settled)).line "The game is now over.").mapOutput
        (·.halt .gameOver) := rfl

namespace Pass

variable {ctx : Context} {a b : Pass}

/-- A step after which the game goes on does not execute the command that stops it. -/
theorem Step.goesOn (h : Step ctx a b) {start : Pass} (ha : GoesOn start a)
    (hb : b.progress.isHalted = false) : GoesOn start b := by
  cases h with
  | draw hgoes => exact ha.of_entry hb rfl rfl
  | settle hgoes => exact ⟨hb, ha.unfinished⟩
  | test hgoes hrow => exact ha.of_entry hb rfl rfl
  | enter hgoes hrow => exact ha.of_entry hb rfl rfl
  | @perform hgoes row c o hrow hcommand =>
    refine ha.of_entry hb (Progress.journal_perform _ _ _ _) ?_
    cases hfinish : Entry.isFinish (.executed c o a.progress.state.settled) with
    | false => rfl
    | true =>
      obtain rfl : c = .finish := by simpa [Entry.isFinish] using hfinish
      simp [Progress.perform_finish, Progress.isHalted, Output.isHalted] at hb

/-- A step records the percentage that it draws, if it draws one. -/
theorem Step.draws (h : Step ctx a b) : ∃ n, Draws n a b := by
  have hkept := Progress.kept_drawn ctx a.progress.output.drawn
  cases h with
  | draw hgoes => exact ⟨1, draws_draw a⟩
  | settle hgoes => exact ⟨0, .none (hkept.settle rfl) rfl⟩
  | test hgoes hrow => exact ⟨0, .none (hkept.tested hrow rfl) rfl⟩
  | enter hgoes hrow => exact ⟨0, .none (hkept.ran hrow (hkept.settle rfl)) rfl⟩
  | perform hgoes hrow hcommand => exact ⟨0, .none (hkept.executed hrow hcommand rfl) rfl⟩

/-- A step that stops the game executes the command that stops it. -/
theorem Step.exists_finish (h : Step ctx a b) (hb : b.progress.isHalted = true) :
    ∃ o, b = ⟨a.progress.perform ctx .finish o, a.dice⟩ ∧
      ∃ row ∈ ctx.world.rows, (.finish, o) ∈ row.program := by
  cases h with
  | draw hgoes => exact absurd (hb.symm.trans hgoes) (by simp)
  | settle hgoes => exact absurd (hb.symm.trans hgoes) (by simp)
  | test hgoes hrow => exact absurd (hb.symm.trans hgoes) (by simp)
  | enter hgoes hrow => exact absurd (hb.symm.trans hgoes) (by simp)
  | @perform hgoes row c o hrow hcommand =>
    by_cases hc : c = .finish
    · subst hc
      exact ⟨o, rfl, row.1, List.fst_mem_of_mem_zipIdx hrow, hcommand⟩
    · rw [Progress.isHalted_perform hc, hgoes] at hb
      cases hb

/-- Every step is taken while the game goes on. -/
theorem Step.isHalted_eq (h : Step ctx a b) : a.progress.isHalted = false := by
  cases h <;> assumption

/-- Steps record the percentages that they draw. -/
theorem Steps.draws (h : Steps ctx a b) : ∃ n, Draws n a b := by
  induction h with
  | refl => exact ⟨0, .none rfl rfl⟩
  | tail _ hstep ih =>
    obtain ⟨n, hn⟩ := ih
    obtain ⟨k, hk⟩ := hstep.draws
    exact ⟨n + k, hn.trans hk⟩

/-- Steps after which the game goes on do not execute the command that stops it. -/
theorem Steps.goesOn (h : Steps ctx a b) (ha : a.progress.isHalted = false)
    (hb : b.progress.isHalted = false) : GoesOn a b := by
  induction h with
  | refl => exact .refl ha
  | tail _ hstep ih => exact hstep.goesOn (ih hstep.isHalted_eq) hb

/-- Steps that stop the game end with the command that stops it. -/
theorem exists_finish_of_isHalted (h : Steps ctx a b) (ha : a.progress.isHalted = false)
    (hb : b.progress.isHalted = true) :
    ∃ m o, GoesOn a m ∧ (∃ n, Draws n a m) ∧
      b = ⟨m.progress.perform ctx .finish o, m.dice⟩ ∧
        ∃ row ∈ ctx.world.rows, (.finish, o) ∈ row.program := by
  rcases h.cases_tail with rfl | ⟨m, hsteps, hstep⟩
  · rw [ha] at hb
    cases hb
  · obtain ⟨o, hfinish⟩ := hstep.exists_finish hb
    exact ⟨m, o, Steps.goesOn hsteps ha hstep.isHalted_eq, Steps.draws hsteps, hfinish⟩

end Pass

/-! ## Passes -/

/-- A pass over the action table: for the automatic rows, or for the player's words. -/
inductive TableCall where
  | automatic
  | words (verb noun : Nat)
deriving Repr, DecidableEq

namespace TableCall

/-- Make a pass in a phase.  The player's words draw no percentage. -/
def run (call : TableCall) (ctx : Context) (phase : Phase) (pass : Pass) : Phase × Pass :=
  match call with
  | automatic => automaticPass ctx phase pass
  | words verb noun =>
    let result := playerPass ctx verb noun phase pass.progress
    (result.2.1, ⟨result.2.2, pass.dice⟩)

/-- A pass takes steps, and in the end it takes back any wish to be continued. -/
theorem exists_steps (call : TableCall) (ctx : Context) {pass : Pass}
    (h : pass.progress.isHalted = false) :
    ∃ last, Pass.Steps ctx pass last ∧
      call.run ctx .idle pass = (.ofOutput last.progress.output, last.settle) := by
  have hrows := List.Subset.refl ctx.world.numberedRows
  cases call with
  | automatic =>
    have hscan := Pass.scanAutomatic_eq_plainScan ctx 0 ctx.world.numberedRows pass h
    rw [List.drop_zero] at hscan
    refine ⟨_, Pass.steps_plainScan hrows h, ?_⟩
    have houtput := congrArg (fun p => p.progress.output) hscan
    exact Prod.ext (congrArg Phase.ofOutput houtput) hscan
  | words verb noun =>
    exact ⟨_, Pass.steps_scanPlayer pass.dice verb noun .noMatch hrows h, rfl⟩

/-- A pass that begins while the game goes on ends in one of two ways.  Either the game goes on, and
the command that stops it was not executed.  Or the game has stopped, and the command that stops it,
which belongs to a row of the table, was executed at some moment up to which the game went on, and
nothing at all came after it: it is the last entry of the journal, its line is the last event, the
dice and the state are those of that moment, and only the wish to be continued is taken back.  After
that, no further pass changes anything, and none finds a match for the player's words. -/
theorem finish_is_last (call : TableCall) (ctx : Context) {pass : Pass}
    (h : pass.progress.isHalted = false) :
    let result := call.run ctx .idle pass
    (result.1 = .idle ∧ pass.GoesOn result.2) ∨
      result.1 = .halted .gameOver ∧
        (∃ moment o, pass.GoesOn moment ∧ (∃ n, Pass.Draws n pass moment) ∧
          (∃ row ∈ ctx.world.rows, (.finish, o) ∈ row.program) ∧
          result.2 = ⟨(moment.progress.perform ctx .finish o).settle, moment.dice⟩ ∧
          result.2.progress.state = moment.progress.state.settled ∧
          result.2.progress.output.events =
            moment.progress.output.events ++ [.line "The game is now over."] ∧
          result.2.progress.output.journal =
            moment.progress.output.journal ++ [.executed .finish o moment.progress.state.settled]) ∧
        ∀ further : Context, (∀ q, automaticPass further result.1 q = (result.1, q)) ∧
          ∀ verb noun p, playerPass further verb noun result.1 p = (.noMatch, result.1, p) := by
  obtain ⟨last, hsteps, hrun⟩ := call.exists_steps ctx h
  intro result
  have hresult : result = (.ofOutput last.progress.output, last.settle) := hrun
  cases hlast : last.progress.isHalted with
  | false =>
    have hphase : Phase.ofOutput last.progress.output = .idle := by
      have hnone : last.progress.output.halted = none := by
        simpa [Progress.isHalted, Output.isHalted] using hlast
      rw [Phase.ofOutput, hnone]
    rw [hresult, hphase]
    have hgoes := hsteps.goesOn h hlast
    exact Or.inl ⟨rfl, hgoes.isHalted_eq, hgoes.unfinished⟩
  | true =>
    obtain ⟨moment, o, hgoes, hdraws, rfl, hrow⟩ := Pass.exists_finish_of_isHalted hsteps h hlast
    rw [hresult]
    exact Or.inr ⟨rfl, ⟨moment, o, hgoes, hdraws, hrow, rfl, rfl, rfl,
      Progress.journal_perform _ _ _ _⟩, fun further => ⟨fun q => rfl, fun verb noun p => rfl⟩⟩

/-- A table whose first row is drawn for and asks to be continued.  The second row stops the game
before its own next command, before the third row, and before a percentage is drawn for the
fourth. -/
def curtainTable : List Row := [
  ⟨100, .replicate 5 0, #v[10950, 0]⟩, ⟨0, .replicate 5 0, #v[9536, 86]⟩,
  ⟨0, .replicate 5 0, #v[86, 0]⟩, ⟨100, .replicate 5 0, #v[86, 0]⟩]

theorem finish_is_last_curtain :
    let ctx : Context := { world := { rows := curtainTable }, settings := {} }
    let pass : Pass := ⟨⟨State.initial ctx.world, {}⟩, Dice.ofSeed 5⟩
    let result := automatic.run ctx .idle pass
    pass.progress.isHalted = false ∧ result.1 = .halted .gameOver ∧
      result.2.progress.output.events = [.line "The game is now over."] ∧
      result.2.progress.output.ran = [0, 1] ∧ result.2.dice = (Dice.ofSeed 5).percent.2 ∧
      ∃ moment o, pass.GoesOn moment ∧
        result.2 = ⟨(moment.progress.perform ctx .finish o).settle, moment.dice⟩ := by
  intro ctx pass result
  have hgoes : pass.progress.isHalted = false := rfl
  have hphase : result.1 = .halted .gameOver := by decide +kernel
  refine ⟨hgoes, hphase, by decide +kernel, by decide +kernel, by decide +kernel, ?_⟩
  rcases finish_is_last automatic ctx hgoes with
    ⟨hidle, -⟩ | ⟨-, ⟨moment, o, hmoment, -, -, hresult, -⟩, -⟩
  · cases hidle.symm.trans hphase
  · exact ⟨moment, o, hmoment, hresult⟩

end TableCall

end TextAdventure
