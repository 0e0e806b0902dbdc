import TextAdventure.ActionTable.Command
import TextAdventure.Game.Narration
import TextAdventure.Game.Progress

/-!
# Running commands

What each command does to the state of the game and to the output of the turn.  A command that
names something the world does not have is skipped as a whole.

Main results:

- Definition `Command.execute`: one command.
- Definition `Row.run`: the commands of a row, up to the one that stops the game.
- Theorems `execute_of_missing` and `execute_of_admitted`: when a command has its effect.
-/

namespace TextAdventure

namespace Command

/-- The effect of a command all of whose references exist. -/
def apply (ctx : Context) (c : Command) (o : Operands) (p : Progress) : Progress :=
  match c with
  | nothing => p
  | message n =>
    match ctx.world.messages[n]? with
    | some text => p.line text
    | none => p
  | get =>
    if p.state.isCarried o.first then p
    else if ctx.world.header.carryLimit ≤ p.state.carriedCount then
      p.line "I've too much to carry!"
    else p.mapState (·.moveItem o.first carried)
  | drop =>
    if p.state.isCarried o.first then p.mapState fun s => s.moveItem o.first s.room
    else p.line "I don't have that."
  | goTo => p.goTo o.first
  | destroy => p.mapState (·.moveItem o.first storeroom)
  | night => p.mapState (·.setFlag Flags.night true)
  | day => p.mapState (·.setFlag Flags.night false)
  | setFlag => p.mapState (·.setFlag o.first true)
  | clearFlag => p.mapState (·.setFlag o.first false)
  | die =>
    ((p.line "I am dead.").mapState (·.setFlag Flags.night false)).goTo ctx.world.header.lastRoom
  | moveItem => p.mapState (·.moveItem o.first o.second)
  | finish => (p.line "The game is now over.").mapOutput (·.halt .gameOver)
  | showRoom => p.mapOutput Output.look
  | score => p.lines (Narration.score ctx.world p.state)
  | inventory => p.lines (Narration.inventory ctx.world p.state)
  | setFlagZero => p.mapState (·.setFlag 0 true)
  | clearFlagZero => p.mapState (·.setFlag 0 false)
  | fill => p.mapState (·.fill ctx.settings.lamp ctx.world.header.lightTime)
  | clearScreen => p.emit .clear
  | save => p.emit .save
  | swapItems => p.mapState (·.swapItems o.first o.second)
  | chain => p.mapState fun s => { s with chaining := true }
  | take => p.mapState (·.moveItem o.first carried)
  | putWith => p.mapState (·.putWith o.first o.second)
  | decrementCounter => p.mapState fun s => s.setCounter (countDown s.counter)
  | showCounter => p.line s!"{p.state.counter}"
  | setCounter => p.mapState (·.setCounter (countOf o.first))
  | swapRoomZero => (p.mapState (·.swapRoom 0)).mapOutput Output.look
  | swapCounter => p.mapState (·.swapCounter o.first)
  | addCounter => p.mapState fun s => s.setCounter (clampCounter (s.counter + countOf o.first))
  | subtractCounter => p.mapState fun s => s.setCounter (clampCounter (s.counter - countOf o.first))
  | sayNoun => p.emit (.text (ctx.noun?.getD ""))
  | sayNounLine => p.line (ctx.noun?.getD "")
  | newLine => p.line ""
  | swapRoom => (p.mapState (·.swapRoom o.first)).mapOutput Output.look
  | delay => p.emit (.delay ctx.settings.delayMillis)
  | unknown _ => p

/-- Run a command; one that names something the world does not have is skipped. -/
def execute (ctx : Context) (c : Command) (o : Operands) (p : Progress) : Progress :=
  if (c.missing? o ctx.world).isSome then p else c.apply ctx o p

/-- Run commands in order, up to the one that stops the game. -/
def executeAll (ctx : Context) : List (Command × Operands) → Progress → Progress
  | [], p => p
  | (c, o) :: rest, p =>
    let p := c.execute ctx o (p.note (.executed c o p.state.settled))
    if p.isHalted then p else executeAll ctx rest p

/-- A command that names something the world does not have changes nothing. -/
theorem execute_of_missing {ctx : Context} {c : Command} {o : Operands} {r : Reference}
    (h : c.missing? o ctx.world = some r) (p : Progress) : c.execute ctx o p = p := by
  simp [execute, h]

/-- A command all of whose references exist has its effect. -/
theorem execute_of_admitted {ctx : Context} {c : Command} {o : Operands}
    (h : c.missing? o ctx.world = none) (p : Progress) : c.execute ctx o p = c.apply ctx o p := by
  simp [execute, h]

end Command

/-- Run the commands of a row. -/
def Row.run (ctx : Context) (row : Row) (p : Progress) : Progress :=
  Command.executeAll ctx row.program p

end TextAdventure