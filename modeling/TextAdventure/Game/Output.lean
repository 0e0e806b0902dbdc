import TextAdventure.ActionTable.Command
import TextAdventure.Game.State

/-!
# The output of a turn

What a turn produces: events for the player, possibly the end of the game, and a journal of what
the interpreter did.  The journal is not shown to the player; it records each step together with
the settled state it was taken in, so that statements about a turn can speak of all its steps.

Main results:

- Inductives `Event`, `Halt` and `Entry`, and structure `Output`.
- Definitions `Output.line`, `Output.emit` and `Output.note`: how an output grows.
- Definition `Output.text`: the printed text of an output.
-/

namespace TextAdventure

/-! ## Events -/

/-- One piece of output. -/
inductive Event where
  /-- A text that ends its line. -/
  | line (text : String)
  /-- A text that leaves its line open. -/
  | text (text : String)
  | clear
  | delay (millis : Nat)
  /-- The game asks to be saved. -/
  | save
deriving Repr, DecidableEq

/-- Why a game has stopped. -/
inductive Halt where
  | gameOver
deriving Repr, DecidableEq

/-- The name of a halt. -/
def Halt.name : Halt → String
  | gameOver => "GameOver"

/-! ## The journal -/

/-- One step of the interpreter, with the state it was taken in. -/
inductive Entry where
  /-- A percentage was drawn. -/
  | drew (percent : Nat)
  /-- The conditions of a row were tested. -/
  | tested (row : Nat) (state : State)
  /-- A row was run. -/
  | ran (row : Nat) (state : State)
  /-- A command was executed. -/
  | executed (command : Command) (operands : Operands) (state : State)
  /-- The room was described. -/
  | looked (state : State)
  /-- The light source burned for a turn. -/
  | burned (state : State)
deriving Repr, DecidableEq

/-! ## Output -/

/-- The output of a turn so far.  `lookPending` says that the room is still to be described. -/
structure Output where
  events : List Event := []
  halted : Option Halt := none
  lookPending : Bool := false
  journal : List Entry := []
deriving Repr, DecidableEq, Inhabited

namespace Output

/-- The game has stopped. -/
def isHalted (out : Output) : Bool :=
  out.halted.isSome

/-- Add an event. -/
def emit (out : Output) (event : Event) : Output :=
  { out with events := out.events ++ [event] }

/-- Add a line. -/
def line (out : Output) (text : String) : Output :=
  out.emit (.line text)

/-- Add lines. -/
def lines (out : Output) (texts : List String) : Output :=
  { out with events := out.events ++ texts.map .line }

/-- Ask for the room to be described. -/
def look (out : Output) : Output :=
  { out with lookPending := true }

/-- Stop the game. -/
def halt (out : Output) (reason : Halt) : Output :=
  { out with halted := some reason }

/-- Record a step in the journal. -/
def note (out : Output) (entry : Entry) : Output :=
  { out with journal := out.journal ++ [entry] }

@[simp] theorem events_emit (out : Output) (event : Event) :
    (out.emit event).events = out.events ++ [event] := rfl

@[simp] theorem events_line (out : Output) (text : String) :
    (out.line text).events = out.events ++ [.line text] := rfl

@[simp] theorem events_note (out : Output) (entry : Entry) :
    (out.note entry).events = out.events := rfl

@[simp] theorem halted_note (out : Output) (entry : Entry) :
    (out.note entry).halted = out.halted := rfl

@[simp] theorem halted_emit (out : Output) (event : Event) :
    (out.emit event).halted = out.halted := rfl

@[simp] theorem events_lines (out : Output) (texts : List String) :
    (out.lines texts).events = out.events ++ texts.map .line := rfl

@[simp] theorem halted_lines (out : Output) (texts : List String) :
    (out.lines texts).halted = out.halted := rfl

@[simp] theorem halted_halt (out : Output) (reason : Halt) :
    (out.halt reason).halted = some reason := rfl

@[simp] theorem journal_note (out : Output) (entry : Entry) :
    (out.note entry).journal = out.journal ++ [entry] := rfl

end Output

/-! ## Printed text -/

/-- What an event prints. -/
def Event.printed : Event → String
  | line t => t ++ "\n"
  | text t => t
  | clear | delay _ | save => ""

/-- What a list of events prints. -/
def Event.printedAll (events : List Event) : String :=
  String.join (events.map Event.printed)

/-- What an output prints. -/
def Output.text (out : Output) : String :=
  Event.printedAll out.events

end TextAdventure
