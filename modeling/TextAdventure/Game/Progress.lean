import TextAdventure.Game.Output
import TextAdventure.Settings

/-!
# Progress

What the commands of a turn read, and what they change: the state of the game and the output of the
turn.

Main results:

- Structure `Context`: the world, the settings, and the noun as it was typed.
- Structure `Progress`: the state and the output so far, with the ways in which they change.
-/

namespace TextAdventure

/-- What the commands of a turn can read: the world, the settings, and the noun as it was typed. -/
structure Context where
  world : World
  settings : Settings
  noun? : Option String := none

/-- The state of the game and the output of the turn so far. -/
structure Progress where
  state : State
  output : Output
deriving Repr, DecidableEq, Inhabited

namespace Progress

/-- Change the state. -/
def mapState (p : Progress) (f : State → State) : Progress :=
  { p with state := f p.state }

/-- Change the output. -/
def mapOutput (p : Progress) (f : Output → Output) : Progress :=
  { p with output := f p.output }

/-- Print a line. -/
def line (p : Progress) (text : String) : Progress :=
  p.mapOutput (·.line text)

/-- Print lines. -/
def lines (p : Progress) (texts : List String) : Progress :=
  p.mapOutput (·.lines texts)

/-- Add an event to the output. -/
def emit (p : Progress) (event : Event) : Progress :=
  p.mapOutput (·.emit event)

/-- Record a step in the journal. -/
def note (p : Progress) (entry : Entry) : Progress :=
  p.mapOutput (·.note entry)

/-- Move the player, who then sees the room. -/
def goTo (p : Progress) (room : Nat) : Progress :=
  ⟨{ p.state with room := room }, p.output.look⟩

/-- The game has stopped. -/
def isHalted (p : Progress) : Bool :=
  p.output.isHalted

@[simp] theorem state_mapState (p : Progress) (f : State → State) :
    (p.mapState f).state = f p.state := rfl

@[simp] theorem output_mapState (p : Progress) (f : State → State) :
    (p.mapState f).output = p.output := rfl

@[simp] theorem state_mapOutput (p : Progress) (f : Output → Output) :
    (p.mapOutput f).state = p.state := rfl

@[simp] theorem output_mapOutput (p : Progress) (f : Output → Output) :
    (p.mapOutput f).output = f p.output := rfl

@[simp] theorem state_note (p : Progress) (entry : Entry) : (p.note entry).state = p.state := rfl

end Progress

end TextAdventure
