import Mathlib.Tactic.SplitIfs
import TextAdventure.ActionTable.Pass

/-!
# What running a row does

Facts about a single row that every pass over the action table relies on.  The wish to be continued
is invisible to conditions and is taken back before a row runs, so that it can only decide which
row comes next.  A row that has run through its commands asks to be continued exactly when one of
them says so.

Main results:

- Theorems `runRow_settle` and `admits_settle`: an earlier wish to be continued has no effect.
- Theorem `Command.execute_cases`: a command is skipped or takes effect.
- Theorem `chaining_runRow`: a row asks to be continued by its commands alone.
- Theorems `visible_runRow` and `ran_runRow`: what a row changes that can be seen, and the rows
  that the journal says have run.
-/

namespace TextAdventure

/-! ## An earlier wish to be continued -/

/-- The conditions of a row do not look at the wish to be continued. -/
@[simp]
theorem Row.holds_settled (row : Row) (world : World) (s : State) :
    row.holds world s.settled = row.holds world s := rfl

namespace Progress

@[simp]
theorem state_settle (p : Progress) : p.settle.state = p.state.settled := rfl

@[simp]
theorem output_settle (p : Progress) : p.settle.output = p.output := rfl

@[simp]
theorem settle_settle (p : Progress) : p.settle.settle = p.settle := rfl

@[simp]
theorem isHalted_settle (p : Progress) : p.settle.isHalted = p.isHalted := rfl

@[simp]
theorem isHalted_note (p : Progress) (entry : Entry) : (p.note entry).isHalted = p.isHalted := rfl

@[simp]
theorem state_noteTested (p : Progress) (row : NumberedRow) :
    (p.noteTested row).state = p.state := rfl

@[simp]
theorem isHalted_noteTested (p : Progress) (row : NumberedRow) :
    (p.noteTested row).isHalted = p.isHalted := rfl

/-- Testing a row and taking back a wish to be continued can be exchanged. -/
theorem noteTested_settle (p : Progress) (row : NumberedRow) :
    p.settle.noteTested row = (p.noteTested row).settle := rfl

/-- A row is admitted whether or not an earlier row asked to be continued. -/
@[simp]
theorem admits_settle (p : Progress) (ctx : Context) (row : NumberedRow) :
    p.settle.admits ctx row = p.admits ctx row :=
  Row.holds_settled row.1 ctx.world p.state

/-- A row runs in the same way whether or not an earlier row asked to be continued. -/
@[simp]
theorem runRow_settle (p : Progress) (ctx : Context) (row : NumberedRow) :
    p.settle.runRow ctx row = p.runRow ctx row := rfl

end Progress

/-! ## Single commands -/

/-- Record a command and execute it. -/
def Progress.perform (p : Progress) (ctx : Context) (c : Command) (o : Operands) : Progress :=
  c.execute ctx o (p.note (.executed c o p.state.settled))

/-- The first command is performed, and the others follow unless it has stopped the game. -/
theorem Command.executeAll_cons (ctx : Context) (c : Command) (o : Operands)
    (rest : List (Command × Operands)) (p : Progress) :
    executeAll ctx ((c, o) :: rest) p =
      if (p.perform ctx c o).isHalted then p.perform ctx c o
      else executeAll ctx rest (p.perform ctx c o) := rfl

/-! ## Asking to be continued -/

namespace State

@[simp]
theorem chaining_swapItems (s : State) (a b : Nat) :
    (s.swapItems a b).chaining = s.chaining := by
  unfold swapItems
  split <;> rfl

@[simp]
theorem chaining_putWith (s : State) (item other : Nat) :
    (s.putWith item other).chaining = s.chaining := by
  unfold putWith
  split <;> rfl

@[simp]
theorem chaining_swapCounter (s : State) (slot : Nat) :
    (s.swapCounter slot).chaining = s.chaining := by
  unfold swapCounter
  split <;> rfl

@[simp]
theorem chaining_swapRoom (s : State) (slot : Nat) :
    (s.swapRoom slot).chaining = s.chaining := by
  unfold swapRoom
  split <;> rfl

end State

/-- One of the commands of the row asks for it to be continued. -/
def Row.asksToContinue (row : Row) : Bool :=
  row.program.any fun entry => entry.1 == .chain

namespace Command

/-- One command alone asks for its row to be continued, and no command takes that back. -/
theorem chaining_apply (ctx : Context) (c : Command) (o : Operands) (p : Progress) :
    (c.apply ctx o p).state.chaining = (p.state.chaining || c == .chain) := by
  cases c with
  | message n =>
    simp only [apply]
    split <;> simp [Progress.line]
  | get =>
    simp only [apply]
    split_ifs <;> simp [Progress.line, State.moveItem]
  | drop =>
    simp only [apply]
    split_ifs <;> simp [Progress.line, State.moveItem]
  | chain => simp [apply]
  | _ =>
    simp [apply, Progress.line, Progress.lines, Progress.emit, Progress.goTo, State.moveItem,
      State.setFlag, State.setCounter, State.fill, State.setLight]

/-- A command is skipped, or has all of its references and takes effect. -/
@[elab_as_elim]
theorem execute_cases (ctx : Context) (c : Command) (o : Operands) (p : Progress)
    {motive : Progress → Prop} (skipped : motive p)
    (applied : c.missing? o ctx.world = none → motive (c.apply ctx o p)) :
    motive (c.execute ctx o p) := by
  cases hmissing : c.missing? o ctx.world with
  | none =>
    rw [execute_of_admitted hmissing]
    exact applied hmissing
  | some r =>
    rw [execute_of_missing hmissing]
    exact skipped

/-- A command that is executed asks for its row to be continued or leaves the wish as it is. -/
theorem chaining_execute (ctx : Context) (c : Command) (o : Operands) (p : Progress) :
    (c.execute ctx o p).state.chaining = (p.state.chaining || c == .chain) := by
  cases hmissing : c.missing? o ctx.world with
  | none =>
    rw [execute_of_admitted hmissing]
    exact chaining_apply ctx c o p
  | some r =>
    rw [execute_of_missing hmissing]
    -- The command that asks to be continued names nothing, so it is never skipped.
    have hne : c ≠ chain := by
      rintro rfl
      simp [missing?, references] at hmissing
    simp [hne]

/-- Commands that all run ask to be continued when one of them does. -/
theorem chaining_executeAll (ctx : Context) (cs : List (Command × Operands)) (p : Progress)
    (h : (executeAll ctx cs p).isHalted = false) :
    (executeAll ctx cs p).state.chaining =
      (p.state.chaining || cs.any fun entry => entry.1 == .chain) := by
  induction cs generalizing p with
  | nil => simp [executeAll]
  | cons entry rest ih =>
    obtain ⟨c, o⟩ := entry
    have hstep := chaining_execute ctx c o (p.note (.executed c o p.state.settled))
    simp only [executeAll] at h ⊢
    split_ifs at h ⊢ with hhalt
    · simp [hhalt] at h
    · rw [ih _ h, hstep]
      simp [Bool.or_assoc]

end Command

/-- A row that runs through asks to be continued by its own commands alone. -/
theorem Progress.chaining_runRow {p : Progress} {ctx : Context} {row : NumberedRow}
    (h : (p.runRow ctx row).isHalted = false) :
    (p.runRow ctx row).state.chaining = row.1.asksToContinue := by
  have hrun := Command.chaining_executeAll ctx row.1.program
    (p.settle.note (.ran row.2 p.state.settled)) h
  -- The row starts without the wish to be continued.
  exact hrun.trans (Bool.false_or _)

/-! ## What can be seen -/

/-- An output as the player sees it, without its journal. -/
def Output.visible (out : Output) : Output :=
  { out with journal := [] }

/-- The rows that the journal says have run, in order. -/
def Output.ran (out : Output) : List Nat :=
  out.journal.filterMap fun
    | .ran row _ => some row
    | _ => none

/-- The state, and the output as the player sees it. -/
def Progress.visible (p : Progress) : Progress :=
  p.mapOutput Output.visible

/-- What running a row makes of the state and of what the player sees. -/
def Row.effect (ctx : Context) (row : Row) (p : Progress) : Progress :=
  (row.run ctx p.settle).visible

namespace Progress

@[simp]
theorem state_visible (p : Progress) : p.visible.state = p.state := rfl

@[simp]
theorem isHalted_visible (p : Progress) : p.visible.isHalted = p.isHalted := rfl

@[simp]
theorem visible_visible (p : Progress) : p.visible.visible = p.visible := rfl

@[simp]
theorem visible_note (p : Progress) (entry : Entry) : (p.note entry).visible = p.visible := rfl

@[simp]
theorem visible_line (p : Progress) (text : String) :
    (p.line text).visible = p.visible.line text := rfl

@[simp]
theorem visible_mapState (p : Progress) (f : State → State) :
    (p.mapState f).visible = p.visible.mapState f := rfl

@[simp]
theorem visible_noteTested (p : Progress) (row : NumberedRow) :
    (p.noteTested row).visible = p.visible := rfl

theorem visible_settle (p : Progress) : p.settle.visible = p.visible.settle := rfl

@[simp]
theorem ran_noteTested (p : Progress) (row : NumberedRow) :
    (p.noteTested row).output.ran = p.output.ran := by
  simp [noteTested, note, mapOutput, Output.ran, Output.note]

end Progress

namespace Command

/-- No command looks at the journal or writes to it. -/
theorem apply_visible (ctx : Context) (c : Command) (o : Operands) (p : Progress) :
    c.apply ctx o p.visible = (c.apply ctx o p).visible := by
  cases c with
  | message n =>
    simp only [apply]
    split <;> rfl
  | get =>
    by_cases hheld : p.state.isCarried o.first = true
    · simp [apply, hheld]
    · by_cases hfull : ctx.world.header.carryLimit ≤ p.state.carriedCount
      · simp [apply, hheld, hfull]
      · simp [apply, hheld, hfull]
  | drop =>
    by_cases hheld : p.state.isCarried o.first = true
    · simp [apply, hheld]
    · simp [apply, hheld]
  | _ => rfl

theorem journal_apply (ctx : Context) (c : Command) (o : Operands) (p : Progress) :
    (c.apply ctx o p).output.journal = p.output.journal := by
  cases c with
  | message n =>
    simp only [apply]
    split <;> rfl
  | get =>
    simp only [apply]
    split_ifs <;> rfl
  | drop =>
    simp only [apply]
    split_ifs <;> rfl
  | _ => rfl

theorem execute_visible (ctx : Context) (c : Command) (o : Operands) (p : Progress) :
    c.execute ctx o p.visible = (c.execute ctx o p).visible := by
  unfold execute
  split_ifs
  · rfl
  · exact apply_visible ctx c o p

theorem journal_execute (ctx : Context) (c : Command) (o : Operands) (p : Progress) :
    (c.execute ctx o p).output.journal = p.output.journal :=
  execute_cases ctx c o p rfl fun _ => journal_apply ctx c o p

/-- What the player sees of a run of commands does not depend on the journal. -/
theorem visible_executeAll {p q : Progress} (h : p.visible = q.visible) (ctx : Context)
    (cs : List (Command × Operands)) :
    (executeAll ctx cs p).visible = (executeAll ctx cs q).visible := by
  induction cs generalizing p q with
  | nil => exact h
  | cons entry rest ih =>
    obtain ⟨c, o⟩ := entry
    have hstep : (c.execute ctx o (p.note (.executed c o p.state.settled))).visible =
        (c.execute ctx o (q.note (.executed c o q.state.settled))).visible := by
      rw [← execute_visible, ← execute_visible, Progress.visible_note, Progress.visible_note, h]
    have hhalt := congrArg Progress.isHalted hstep
    simp only [Progress.isHalted_visible] at hhalt
    simp only [executeAll, hhalt]
    split_ifs
    · exact hstep
    · exact ih hstep

/-- The commands of a row run no further row. -/
theorem ran_executeAll (ctx : Context) (cs : List (Command × Operands)) (p : Progress) :
    (executeAll ctx cs p).output.ran = p.output.ran := by
  induction cs generalizing p with
  | nil => rfl
  | cons entry rest ih =>
    obtain ⟨c, o⟩ := entry
    have hstep :
        (c.execute ctx o (p.note (.executed c o p.state.settled))).output.ran = p.output.ran := by
      simp only [Output.ran, journal_execute]
      simp [Progress.note, Progress.mapOutput, Output.note]
    simp only [executeAll]
    split_ifs
    · exact hstep
    · rw [ih, hstep]

end Command

namespace Row

/-- The effect of a row does not depend on the journal. -/
theorem effect_visible (ctx : Context) (row : Row) (p : Progress) :
    row.effect ctx p.visible = row.effect ctx p :=
  Command.visible_executeAll (by rfl) ctx row.program

end Row

namespace Progress

/-- Running a row shows its effect. -/
theorem visible_runRow (p : Progress) (ctx : Context) (row : NumberedRow) :
    (p.runRow ctx row).visible = row.1.effect ctx p :=
  Command.visible_executeAll (by rfl) ctx row.1.program

/-- Running a row adds it to the rows that have run. -/
theorem ran_runRow (p : Progress) (ctx : Context) (row : NumberedRow) :
    (p.runRow ctx row).output.ran = p.output.ran ++ [row.2] := by
  unfold runRow Row.run
  rw [Command.ran_executeAll]
  simp [note, mapOutput, Output.ran, Output.note]

end Progress

end TextAdventure
