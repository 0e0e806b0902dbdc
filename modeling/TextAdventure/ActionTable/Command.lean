import TextAdventure.World

/-!
# Commands

A row of the action table runs up to four commands.  A command has no operands of its own: it
takes them from the condition slots of its row, by position.

Main results:

- Inductive `Command` with `Command.ofOpcode` and `Command.opcode`.
- Definition `Command.references`: what a command names when it runs with given operands.
- Definition `Row.program`: the commands of a row with their operands.
-/

namespace TextAdventure

/-- A command of the action table.  `x` and `y` stand for its first and second operand. -/
inductive Command where
  | nothing
  /-- Print a message. -/
  | message (number : Nat)
  /-- Pick up item `x`, within the carry limit. -/
  | get
  /-- Put down item `x`. -/
  | drop
  /-- Go to room `x`. -/
  | goTo
  /-- Take item `x` out of play. -/
  | destroy
  | night
  | day
  /-- Set flag `x`. -/
  | setFlag
  /-- Clear flag `x`. -/
  | clearFlag
  /-- The player dies and goes to the last room. -/
  | die
  /-- Move item `x` to location `y`. -/
  | moveItem
  /-- The game is over. -/
  | finish
  /-- Describe the room. -/
  | showRoom
  /-- Print the score. -/
  | score
  /-- List what the player holds. -/
  | inventory
  | setFlagZero
  | clearFlagZero
  /-- Refill the light source and hand it to the player. -/
  | fill
  | clearScreen
  /-- Ask for the game to be saved. -/
  | save
  /-- Exchange the locations of items `x` and `y`. -/
  | swapItems
  /-- Go on with the rows below. -/
  | chain
  /-- Pick up item `x` whatever the player holds. -/
  | take
  /-- Move item `x` to where item `y` is. -/
  | putWith
  | decrementCounter
  /-- Print the counter. -/
  | showCounter
  /-- Set the counter to `x`. -/
  | setCounter
  /-- Exchange the room with alternate room 0. -/
  | swapRoomZero
  /-- Exchange the counter with alternate counter `x`. -/
  | swapCounter
  | addCounter
  | subtractCounter
  /-- Print the noun as typed. -/
  | sayNoun
  /-- Print the noun as typed, on a line of its own. -/
  | sayNounLine
  | newLine
  /-- Exchange the room with alternate room `x`. -/
  | swapRoom
  /-- Pause the output. -/
  | delay
  /-- An opcode without a meaning, which does nothing. -/
  | unknown (opcode : Nat)
deriving Repr, DecidableEq

namespace Command

/-! ## Opcodes -/

/-- The opcodes with the command that each one runs, messages apart. -/
def table : List (Nat × Command) :=
  [(0, nothing), (52, get), (53, drop), (54, goTo), (55, destroy), (56, night), (57, day),
    (58, setFlag), (59, destroy), (60, clearFlag), (61, die), (62, moveItem), (63, finish),
    (64, showRoom), (65, score), (66, inventory), (67, setFlagZero), (68, clearFlagZero),
    (69, fill), (70, clearScreen), (71, save), (72, swapItems), (73, chain), (74, take),
    (75, putWith), (76, showRoom), (77, decrementCounter), (78, showCounter), (79, setCounter),
    (80, swapRoomZero), (81, swapCounter), (82, addCounter), (83, subtractCounter), (84, sayNoun),
    (85, sayNounLine), (86, newLine), (87, swapRoom), (88, delay)]

/-- The command of an opcode.  Messages have the opcodes 1 to 51, and from 102 to 151 the numbers
that follow. -/
def ofOpcode (opcode : Nat) : Command :=
  if 1 ≤ opcode ∧ opcode ≤ 51 then message opcode
  else if 102 ≤ opcode ∧ opcode ≤ 151 then message (opcode - 50)
  else (table.lookup opcode).getD (unknown opcode)

/-- The first opcode of a command. -/
def opcode : Command → Nat
  | message n => if n ≤ 51 then n else n + 50
  | unknown op => op
  | c => ((table.find? fun entry => entry.2 = c).map Prod.fst).getD 0

/-- The mnemonic of an opcode. -/
def mnemonic (opcode : Nat) : String :=
  match ofOpcode opcode with
  | nothing => "NOP"
  | message _ => "MSG"
  | get => "GETx"
  | drop => "DROPx"
  | goTo => "GOTOy"
  | destroy => "x->RM0"
  | night => "NIGHT"
  | day => "DAY"
  | setFlag => "SETz"
  | clearFlag => "CLRz"
  | die => "DEAD"
  | moveItem => "x->y"
  | finish => "FINI"
  | showRoom => "DspRM"
  | score => "SCORE"
  | inventory => "INV"
  | setFlagZero => "SET0"
  | clearFlagZero => "CLR0"
  | fill => "FILL"
  | clearScreen => "CLS"
  | save => "SAVE"
  | swapItems => "EXx,x"
  | chain => "CONT"
  | take => "AGETx"
  | putWith => "BYx<-x"
  | decrementCounter => "CT-1"
  | showCounter => "DspCT"
  | setCounter => "CT<-n"
  | swapRoomZero => "EXRM0"
  | swapCounter => "EXm,CT"
  | addCounter => "CT+n"
  | subtractCounter => "CT-n"
  | sayNoun => "SAYw"
  | sayNounLine => "SAYwCR"
  | newLine => "SAYCR"
  | swapRoom => "EXc,CR"
  | delay => "DELAY"
  | unknown _ => "unknown_command"

/-- A command as error messages name it. -/
def text : Command → String
  | message n => s!"MSG {n}"
  | unknown op => s!"unknown command {op}"
  | c => mnemonic c.opcode

/-! ## References -/

/-- What a command names when it runs with the given operands. -/
def references (c : Command) (o : Operands) : List Reference :=
  match c with
  | message n => [.message n]
  | get | drop | destroy | take => [.item o.first]
  | goTo => [.room o.first]
  | setFlag | clearFlag => [.flag o.first]
  | moveItem => [.item o.first, .location o.second]
  | swapItems | putWith => [.item o.first, .item o.second]
  | swapCounter => [.altCounter o.first]
  | swapRoom => [.altRoom o.first]
  | _ => []

/-- The first thing a command names that the world does not have. -/
def missing? (c : Command) (o : Operands) (world : World) : Option Reference :=
  (c.references o).find? fun r => !world.admits r

end Command

/-! ## Rows -/

/-- The commands of a row with their operands; an opcode of zero is left out. -/
def Row.program (row : Row) : List (Command × Operands) :=
  (row.opcodes.filter fun (opcode, _) => opcode != 0).map
    fun (opcode, operands) => (Command.ofOpcode opcode, operands)

end TextAdventure
