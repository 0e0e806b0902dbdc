import TextAdventure.ActionTable.Condition
import TextAdventure.ActionTable.Execution
import TextAdventure.Dice

/-!
# Passes over the action table

How the rows of the action table are chosen.  The automatic pass considers every row without a verb
once, in order; a noun above zero is the percentage with which such a row is considered.  The player
pass runs the first row that answers to the typed words and whose conditions hold.

A row that asks to be continued opens a chain: the rows directly below it with neither verb nor noun
run in order as far as their conditions hold.  The chain stays open across rows whose conditions
fail.  It closes after a row that ran without asking to be continued, before a row that has a verb
or a noun, and at the end of the table.

Main results:

- Definition `chain`: the rows that continue a row, with the number of rows taken up by the chain.
- Definitions `automaticPass` and `playerPass`: the two passes.
-/

namespace TextAdventure

/-! ## Phases and matches -/

/-- Where a game stands between two passes. -/
inductive Phase where
  | idle
  /-- The game has stopped, and nothing runs any more. -/
  | halted (reason : Halt)
deriving Repr, DecidableEq

namespace Phase

/-- A phase as it is shown. -/
def text : Phase → String
  | idle => "idle"
  | halted reason => s!"halted ({reason.name})"

/-- The phase that a pass with the given output ends in. -/
def ofOutput (out : Output) : Phase :=
  match out.halted with
  | some reason => halted reason
  | none => idle

end Phase

/-- What came of the player's words. -/
inductive Match where
  /-- A row ran. -/
  | executed
  /-- Rows answer to the words, but the conditions of none hold. -/
  | conditionsFailed
  /-- No row answers to the words. -/
  | noMatch
deriving Repr, DecidableEq

/-- The progress of a turn together with the dice. -/
structure Pass where
  progress : Progress
  dice : Dice
deriving Repr, DecidableEq

/-! ## Rows -/

/-- A row of the action table with its number. -/
abbrev NumberedRow := Row × Nat

/-- The rows of the action table with their numbers. -/
def World.numberedRows (world : World) : List NumberedRow :=
  world.rows.zipIdx

/-- The row answers to the words: it has the verb, and the noun or no noun. -/
def Row.answers (row : Row) (verb noun : Nat) : Bool :=
  row.trigger.verb == verb && (row.trigger.noun == noun || row.trigger.noun == 0)

namespace Progress

/-- Take back any wish to be continued. -/
def settle (p : Progress) : Progress :=
  p.mapState State.settled

/-- Record that the conditions of a row were tested. -/
def noteTested (p : Progress) (row : NumberedRow) : Progress :=
  p.note (.tested row.2 p.state.settled)

/-- The conditions of a row hold. -/
def admits (p : Progress) (ctx : Context) (row : NumberedRow) : Bool :=
  row.1.holds ctx.world p.state

/-- Run a row, which may then ask to be continued. -/
def runRow (p : Progress) (ctx : Context) (row : NumberedRow) : Progress :=
  row.1.run ctx (p.settle.note (.ran row.2 p.state.settled))

end Progress

/-! ## Chains -/

/-- Continue a row that asked for it with the rows below, and count the rows that the chain took
up, whether they ran or not. -/
def chain (ctx : Context) : List NumberedRow → Progress → Progress × Nat
  | [], p => (p.settle, 0)
  | row :: rest, p =>
    if p.state.chaining && row.1.trigger.isContinuation then
      let tested := p.noteTested row
      if p.admits ctx row then
        let after := tested.runRow ctx row
        if after.isHalted then (after, 1)
        else
          let (final, taken) := chain ctx rest after
          (final, taken + 1)
      else
        let (final, taken) := chain ctx rest tested
        (final, taken + 1)
    else (p.settle, 0)

/-! ## The automatic pass -/

namespace Pass

/-- Draw the percentage of a row that has one.  The row is considered when the percentage is not
above its noun; a row without a noun is always considered. -/
def gate (pass : Pass) (noun : Nat) : Bool × Pass :=
  if noun = 0 then (true, pass)
  else
    let (percent, dice) := pass.dice.percent
    (percent ≤ noun, ⟨pass.progress.note (.drew percent), dice⟩)

/-- Go through the rows in order, leaving out the first `skip` of them, and run each one without a
verb that is considered and whose conditions hold.  The rows that a chain has taken up are left out
where the scan resumes. -/
def scanAutomatic (ctx : Context) : Nat → List NumberedRow → Pass → Pass
  | _, [], pass => pass
  | skip + 1, _ :: rest, pass => scanAutomatic ctx skip rest pass
  | 0, row :: rest, pass =>
    if row.1.trigger.isAutomatic then
      let (considered, pass) := pass.gate row.1.trigger.noun
      if considered then
        let tested := pass.progress.noteTested row
        if pass.progress.admits ctx row then
          let after := tested.runRow ctx row
          if after.isHalted then ⟨after, pass.dice⟩
          else if after.state.chaining then
            let (chained, taken) := chain ctx rest after
            if chained.isHalted then ⟨chained, pass.dice⟩
            else scanAutomatic ctx taken rest ⟨chained, pass.dice⟩
          else scanAutomatic ctx 0 rest ⟨after, pass.dice⟩
        else scanAutomatic ctx 0 rest ⟨tested, pass.dice⟩
      else scanAutomatic ctx 0 rest pass
    else scanAutomatic ctx 0 rest pass

end Pass

/-- One pass over the automatic rows. -/
def automaticPass (ctx : Context) (phase : Phase) (pass : Pass) : Phase × Pass :=
  match phase with
  | .halted reason => (.halted reason, pass)
  | .idle =>
    let after := Pass.scanAutomatic ctx 0 ctx.world.numberedRows pass
    (.ofOutput after.progress.output, { after with progress := after.progress.settle })

/-! ## The player pass -/

/-- Run the first row that answers to the words and whose conditions hold, with its chain; `sofar`
is what came of the rows above. -/
def scanPlayer (ctx : Context) (verb noun : Nat) (sofar : Match) :
    List NumberedRow → Progress → Match × Progress
  | [], p => (sofar, p)
  | row :: rest, p =>
    if row.1.answers verb noun then
      let tested := p.noteTested row
      if p.admits ctx row then
        let after := tested.runRow ctx row
        if !after.isHalted && after.state.chaining then (.executed, (chain ctx rest after).1)
        else (.executed, after)
      else scanPlayer ctx verb noun .conditionsFailed rest tested
    else scanPlayer ctx verb noun sofar rest p

/-- Match the player's words against the action table. -/
def playerPass (ctx : Context) (verb noun : Nat) (phase : Phase) (p : Progress) :
    Match × Phase × Progress :=
  match phase with
  | .halted reason => (.noMatch, .halted reason, p)
  | .idle =>
    let (found, after) := scanPlayer ctx verb noun .noMatch ctx.world.numberedRows p
    (found, .ofOutput after.output, after.settle)

end TextAdventure
